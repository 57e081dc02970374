import HostProbe.Proofs.Node.Recall
import HostProbe.Proofs.Tool.Exchange
import HostProbe.Proofs.Tool.Upkeep

/-! Resolutions that install their tool: the probe found it missing, the entry's installation went
through, and then the probe found it. -/

namespace HostProbe

variable {σ : Type} {n : Node σ} {command : String}

namespace Node

def ToldMissing (n : Node σ) (command : String) (s t : NodeState σ) : Prop :=
  ∃ output, n.Told (.which command) (n.exchanges s t) output ∧ output.exitCode ≠ 0

lemma not_toldMissing_refl (u : NodeState σ) : ¬ n.ToldMissing command u u := by
  rintro ⟨output, ⟨x, hx, -⟩, -⟩
  rw [(leads_of_eq (n := n) (s := u) rfl rfl).exchanges_eq] at hx
  cases hx

def Distinct (n : Node σ) (command : String) : Prop :=
  ∀ line, n.lineOf (.which command) = .ok line → ¬ n.Permits [.release] line

lemma not_toldMissing_of_found (hdistinct : n.Distinct command) {u v w : NodeState σ} {os : Os}
    (hos : n.os u = (.ok os, v)) (hfound : n.commandExists command v = (.ok true, w)) :
    ¬ n.ToldMissing command u w := by
  have hdetect : Emits n id [.release] (fun _ _ => True) n.os := emits_os (List.mem_singleton_self _)
  have hlook : Emits n id [.which command] _ (n.commandExists command) :=
    emits_commandExists_last (List.mem_singleton_self _)
  obtain ⟨-, xs, hfirst, hasked, -⟩ := hdetect u
  obtain ⟨-, ys, hlast, -, hanswer⟩ := hlook v
  rw [hos] at hfirst
  rw [hfound] at hlast hanswer
  obtain ⟨before, x, output, rfl, hbefore, houtput, hzero⟩ := hanswer true rfl
  rintro ⟨output', ⟨y, hy, hline, htold⟩, hcode⟩
  have hall : n.Leads u w _ := hfirst.trans hlast
  rw [hall.exchanges_eq, List.mem_append, List.mem_append, List.mem_singleton] at hy
  obtain hy | hy | rfl := hy
  · exact hdistinct _ hline (hasked y hy)
  · rcases hbefore y hy with hsudo | ⟨a, ha, -⟩
    · exact hdistinct _ hline (.inl hsudo)
    · cases ha
  · obtain rfl : output = output' := Except.ok.inj (houtput.symm.trans htold)
    exact hcode (by simpa using hzero.symm)

end Node

namespace ToolRegistry

open NodeM ToolM

variable {r : ToolRegistry σ} {e : ToolEntry σ} {t : Tool} {s s' : Equipped σ}

structure Installs (r : ToolRegistry σ) (e : ToolEntry σ) (n : Node σ)
    (resolve : ToolRequest → ToolM σ Tool) (t : Tool) (s u v : Equipped σ) (t' : NodeState σ) :
    Prop where
  made : r.Makes e t
  before : n.Reaches s.node u.node
  install : (e.install n t).run resolve u = (.ok (), v)
  after : ∃ w logs, n.commandExists t.command v.node = (.ok true, w) ∧ t' = { w with logs }

variable (hprobe : e.probe = Tool.probeCommand) (hcommand : ∀ t, r.Makes e t → t.command = command)
  (hdistinct : n.Distinct command)

include hprobe

lemma probe_command_eq_ok {resolve : ToolRequest → ToolM σ Tool} {present : Bool}
    (h : probe e n resolve t s = (.ok present, s')) :
    n.commandExists t.command s.node = (.ok present, s'.node) := by
  rw [probe, hprobe, Tool.probeCommand, Procedure.run_ofNode, onNode_apply] at h
  rcases hrun : n.commandExists t.command s.node with ⟨f | found, w⟩
  · rw [hrun] at h
    cases h
  · rw [hrun] at h
    cases h
    rfl

include hcommand hdistinct

lemma exists_installs_of_provide {resolve : ToolRequest → ToolM σ Tool}
    (h : r.provide e n resolve s = (.ok t, s')) (hmissing : n.ToldMissing command s.node s'.node) :
    ∃ u v, r.Installs e n resolve t s u v s'.node := by
  have hmade := makes_of_provide h
  obtain ⟨os, s₁, hos, h⟩ := bind_eq_ok h
  obtain ⟨seed, s₂, hseed, h⟩ := bind_eq_ok h
  obtain ⟨made, s₃, hmake, h⟩ := bind_eq_ok h
  obtain ⟨present, s₄, hlooked, h⟩ := bind_eq_ok h
  have hexists := probe_command_eq_ok hprobe hlooked
  have hdetect := (within_onNode (r := r) Node.respects_reaches.detectedOs).of_eq hos
  have hlook := (Node.respects_reaches.commandExists made.command).of_eq hexists
  obtain rfl : s₁ = s₂ := congrArg Prod.snd hseed
  obtain rfl : ({ s₁ with tools := { s₁.tools with next := s₁.tools.next + 1 } } : Equipped σ) = s₃ :=
    congrArg Prod.snd hmake
  have hfirst : n.Reaches s.node s₄.node := IsTrans.trans _ _ _ hdetect.node hlook
  cases present with
  | true =>
    cases h
    have houtcome := congrArg Prod.fst hos
    have hnode := congrArg (fun out => out.2.node) hos
    have hsystem : n.os s.node = (.ok os, s₁.node) := Prod.ext houtcome hnode
    rw [hcommand _ hmade] at hexists
    exact absurd hmissing (Node.not_toldMissing_of_found hdistinct hsystem hexists)
  | false =>
    rw [if_neg Bool.false_ne_true] at h
    split at h
    · cases h
    · obtain ⟨_, s₅, hreport, h⟩ := bind_eq_ok h
      obtain ⟨_, v, hinstall, h⟩ := bind_eq_ok h
      obtain ⟨found, s₆, hfound, h⟩ := bind_eq_ok h
      have hexists' := probe_command_eq_ok hprobe hfound
      cases found with
      | false => cases h
      | true =>
        obtain ⟨_, s₇, hreport', h⟩ := bind_eq_ok h
        cases h
        refine ⟨s₅, v, hmade, ?_, hinstall, s₆.node, s'.node.logs, hexists', ?_⟩
        · cases hreport
          exact IsTrans.trans _ _ _ hfirst (Node.respects_reaches.logs _ _)
        · cases hreport'
          rfl

lemma exists_installs_of_resolveWith {inner : String → ToolM σ Tool} {id : String}
    (hfind : r.find? id = some e) (hnone : e.dependencies = [])
    (h : r.resolveWith n inner id s = (.ok t, s')) (hmissing : n.ToldMissing command s.node s'.node) :
    ∃ u v, r.Installs e n (r.supply inner) t s u v s'.node := by
  cases ht : s.tools.find? id with
  | some cached =>
    rw [resolveWith_of_cached hfind ht] at h
    cases h
    exact absurd hmissing (Node.not_toldMissing_refl _)
  | none =>
    by_cases hm : id ∈ s.tools.resolving
    · rw [resolveWith_of_marked hfind ht hm] at h
      cases h
    · rw [resolveWith_of_fresh hfind ht hm] at h
      rcases hobtain : r.obtain e n inner { s with tools := s.tools.begin id } with ⟨f | t', u⟩
      · rw [hobtain] at h
        cases h
      · rw [hobtain] at h
        cases h
        rw [obtain, hnone] at hobtain
        obtain ⟨u', v, hinstalls⟩ :=
          exists_installs_of_provide (r := r) hprobe hcommand hdistinct hobtain hmissing
        exact ⟨u', v, hinstalls.made, hinstalls.before, hinstalls.install, hinstalls.after⟩

lemma exists_installs_of_resolve {R : NodeState σ → NodeState σ → Prop} [IsPreorder (NodeState σ) R]
    (hr : r.Respects n R) {ref : ToolRef} (hfind : r.find? ref.id = some e) (hnone : e.dependencies = [])
    (h : r.resolve n ref s = (.ok t, s')) (hmissing : n.ToldMissing command s.node s'.node) :
    ∃ resolve u v, (∀ w, Within (Upkeep r R) (resolve w)) ∧ r.Installs e n resolve t s u v s'.node := by
  have hinner : ∀ id, Within (Upkeep r R)
      (r.resolveUpTo n (fun id => throw (.circularDependency id)) r.entries.length id) :=
    within_resolveUpTo hr.staysWithin (fun _ => within_throw _) _
  obtain ⟨u, v, hinstalls⟩ :=
    exists_installs_of_resolveWith hprobe hcommand hdistinct hfind hnone (eq_ok_of_resolveAs h) hmissing
  exact ⟨_, u, v, within_supply hinner, hinstalls⟩

end ToolRegistry

end HostProbe
