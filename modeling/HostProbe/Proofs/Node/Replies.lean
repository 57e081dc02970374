import HostProbe.Node.Execute
import HostProbe.Proofs.Node.Operation

/-! Machines that can be reached and that answer a command by its text alone. -/

namespace HostProbe

variable {σ : Type}

lemma Node.os_of_known {n : Node σ} {os : Os} {s : NodeState σ} (h : s.os = some os) :
    n.os s = (.ok os, s) := by
  rw [Node.os, bind_of_ok (get_apply s), h]
  rfl

structure Transport.Replies (way : Transport σ) (reply : String → CommandOutput) : Prop where
  connect m : (way.connect m).1 = .ok ()
  run q m : (way.run q m).1 = .ok (reply q.command)

def finds (reply : String → CommandOutput) (command : String) : Except Fault Bool :=
  (Shell.quote command).map fun arg => (reply ("command -v " ++ arg)).exitCode == 0

def Node.replying (reply : String → CommandOutput) : Node Unit where
  name := "host"
  transport :=
    { describe := "local"
      isRemote := false
      connect := fun m => (.ok (), m)
      run := fun q m => (.ok (reply q.command), m)
      close := fun m => (.ok (), m) }

lemma Node.replies_replying (reply : String → CommandOutput) :
    (replying reply).transport.Replies reply where
  connect _ := rfl
  run _ _ := rfl

section Command

variable {n : Node σ} {reply : String → CommandOutput}

lemma Node.connect_of_replies (h : n.transport.Replies reply) (s : NodeState σ) :
    ∃ s', n.connect s = (.ok (), s') ∧ s'.os = s.os ∧ s'.env = s.env := by
  cases hd : s.connection.done with
  | true => exact ⟨s, n.connect_of_connected hd, rfl, rfl⟩
  | false =>
    rw [n.connect_of_not_connected hd, h.connect]
    exact ⟨_, rfl, rfl, rfl⟩

lemma Node.run_of_replies (h : n.transport.Replies reply) (q : CommandRequest) (s : NodeState σ) :
    ∃ s', n.run q s = (.ok (reply q.command), s') ∧ s'.os = s.os ∧ s'.env = s.env :=
  ⟨_, Prod.ext (h.run q s.machine) rfl, rfl, rfl⟩

lemma Node.execute_of_replies (h : n.transport.Replies reply) (hsudo : n.alwaysSudo = false)
    {s : NodeState σ} (hs : s.env = []) (line : String) :
    ∃ s', n.execute line (ExecOptions.quiet { shell := true }) s =
      (.ok (Node.resultOf line (reply line)), s') ∧ s'.os = s.os ∧ s'.env = s.env := by
  obtain ⟨s₁, hconnect, hos, henv⟩ := Node.connect_of_replies h s
  obtain ⟨s₂, hrun, hos', henv'⟩ :=
    Node.run_of_replies h ⟨line, true, s₁.workingDir, [], n.timeoutMs⟩ s₁
  refine ⟨s₂, ?_, hos'.trans hos, henv'.trans henv⟩
  have hprepare : n.prepare line (ExecOptions.quiet { shell := true }) s₁ = (.ok line, s₁) := by
    simp only [Node.prepare, Node.usesSudo, ExecOptions.quiet, hsudo, Bool.or_self, Bool.not_false]
    rfl
  have hmerged : Node.mergedEnv (ExecOptions.quiet { shell := true }) s₁ = .ok [] := by
    rw [Node.mergedEnv, henv, hs]
    rfl
  rw [Node.execute, bind_of_ok hconnect, bind_of_ok hprepare,
    bind_of_ok (get_apply s₁), hmerged, bind_of_ok (liftM_apply _ s₁),
    bind_of_ok (get_apply s₁)]
  refine (bind_of_ok hrun _).trans ?_
  simp only [ExecOptions.quiet, Bool.not_true, Bool.and_false, Bool.false_eq_true, ↓reduceIte]
  rfl

lemma Node.commandExists_of_replies (h : n.transport.Replies reply) (hsudo : n.alwaysSudo = false)
    {s : NodeState σ} (hs : s.env = []) (command : String) :
    ∃ s', n.commandExists command s = (finds reply command, s') ∧ s'.os = s.os ∧
      s'.env = s.env := by
  unfold Node.commandExists finds
  cases Shell.quote command with
  | error f => exact ⟨s, rfl, rfl, rfl⟩
  | ok arg =>
    obtain ⟨s', hexecute, hos, henv⟩ :=
      Node.execute_of_replies h hsudo hs ("command -v " ++ arg)
    exact ⟨s', bind_of_ok hexecute _, hos, henv⟩

end Command

end HostProbe
