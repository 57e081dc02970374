import HostProbe.Proofs.Node.Environment
import HostProbe.Proofs.Node.Execute

/-! Runs of calls on a node, in any order and failing or not. A call connects before it sends anything,
so a rule that the transport obeys while it is connected or not is kept by every run; and a node that
is not connected has no stored results. -/

namespace HostProbe

open NodeM

variable {σ : Type}

inductive Call where
  | connect
  | close
  | execute (command : String) (opts : ExecOptions)
  | executeCached (command : String) (opts : ExecOptions)
  | pathExists (path : String)
  | os
  | packageManager
  | supportsSudo
  | setWorkingDir (dir : Option String)
  | updateEnv (name value : String)

namespace Node

variable (n : Node σ)

def act : Call → NodeM σ Unit
  | .connect => n.connect
  | .close => n.close
  | .execute command opts => do let _ ← n.execute command opts
  | .executeCached command opts => do let _ ← n.executeCached command opts
  | .pathExists path => do let _ ← n.pathExists path
  | .os => do let _ ← n.os
  | .packageManager => do let _ ← n.packageManager
  | .supportsSudo => do let _ ← n.supportsSudo
  | .setWorkingDir dir => setWorkingDir dir
  | .updateEnv name value => updateEnv name value

def after (s : NodeState σ) (c : Call) : NodeState σ := (n.act c s).2

def afterAll (s : NodeState σ) (calls : List Call) : NodeState σ := calls.foldl n.after s

lemma afterAll_append (s : NodeState σ) (calls more : List Call) :
    n.afterAll s (calls ++ more) = n.afterAll (n.afterAll s calls) more := List.foldl_append

variable {n}

lemma afterAll_of_after {R : NodeState σ → NodeState σ → Prop} [IsPreorder (NodeState σ) R]
    (h : ∀ s c, R s (n.after s c)) (s : NodeState σ) (calls : List Call) : R s (n.afterAll s calls) := by
  induction calls generalizing s with
  | nil => exact refl s
  | cons c rest ih => exact IsTrans.trans _ _ _ (h s c) (ih (n.after s c))

lemma Respects.call {R : NodeState σ → NodeState σ → Prop} [IsPreorder (NodeState σ) R]
    (h : n.Respects R) {c : Call} (hclose : c = .close → Within R n.close)
    (hstore : ∀ command opts, c = .executeCached command opts →
      ∀ key result s, s.connection.done = true → R s (store (σ := σ) key result s).2)
    (hdir : ∀ dir, c = .setWorkingDir dir → Within R (setWorkingDir (σ := σ) dir))
    (henv : ∀ name value, c = .updateEnv name value → Within R (updateEnv (σ := σ) name value)) :
    Within R (n.act c) := by
  cases c with
  | connect => exact h.connect
  | close => exact hclose rfl
  | execute command opts => exact (h.execute command opts).bind fun _ => within_pure ()
  | executeCached command opts =>
    exact (h.executeCached (hstore command opts rfl) command opts).bind fun _ => within_pure ()
  | pathExists path => exact (h.pathExists path).bind fun _ => within_pure ()
  | os => exact h.detectedOs.bind fun _ => within_pure ()
  | packageManager => exact h.packageManager.bind fun _ => within_pure ()
  | supportsSudo => exact h.supportsSudo.bind fun _ => within_pure ()
  | setWorkingDir dir => exact hdir dir rfl
  | updateEnv name value => exact henv name value rfl

end Node

def Saves (P : NodeState σ → Prop) (s t : NodeState σ) : Prop := P s → P t

instance (P : NodeState σ → Prop) : IsPreorder (NodeState σ) (Saves P) where
  refl _ h := h
  trans _ _ _ h h' hs := h' (h hs)

structure Transport.Obeys (way : Transport σ) (rule : Bool → σ → Prop) : Prop where
  connect m : rule false m → rule (way.connect m).1.isOk (way.connect m).2
  run q m : rule true m → rule true (way.run q m).2
  close m : rule true m → rule false (way.close m).2

lemma Transport.obeys_true (way : Transport σ) : way.Obeys fun _ _ => True :=
  ⟨fun _ _ => trivial, fun _ _ _ => trivial, fun _ _ => trivial⟩

structure Linked (rule : Bool → σ → Prop) (s : NodeState σ) : Prop where
  link : rule s.connection.done s.machine
  forgotten : s.connection.done = false → s.results = []

variable {rule : Bool → σ → Prop} {n : Node σ} (h : n.transport.Obeys rule)

include h

lemma respects_linked : n.Respects (Saves (Linked rule)) where
  connect := Node.within_connect fun s hd hs =>
    ⟨h.connect s.machine (hd ▸ hs.link), fun _ => hs.forgotten hd⟩
  run q s hd hs := ⟨hd ▸ h.run q s.machine (hd ▸ hs.link), hs.forgotten⟩
  logs _ _ hs := ⟨hs.link, hs.forgotten⟩
  sudoSupported _ _ hs := ⟨hs.link, hs.forgotten⟩
  os _ _ hs := ⟨hs.link, hs.forgotten⟩
  packages _ _ hs := ⟨hs.link, hs.forgotten⟩

lemma linked_close : Within (Saves (Linked rule)) n.close :=
  Node.within_close fun s hd hs => ⟨h.close s.machine (hd ▸ hs.link), fun _ => rfl⟩

lemma linked_after {s : NodeState σ} (hs : Linked rule s) (c : Call) : Linked rule (n.after s c) := by
  refine (respects_linked h).call (fun _ => linked_close h) (fun _ _ _ key result s hd hs => ?_)
    (fun _ _ s hs => ⟨hs.link, hs.forgotten⟩) (fun _ _ _ s hs => ⟨hs.link, hs.forgotten⟩) s hs
  exact ⟨hs.link, fun hnot => absurd (hnot.symm.trans hd) Bool.false_ne_true⟩

lemma linked_afterAll {s : NodeState σ} (hs : Linked rule s) (calls : List Call) :
    Linked rule (n.afterAll s calls) :=
  n.afterAll_of_after (R := Saves (Linked rule)) (fun _ c hs => linked_after h hs c) s calls hs

end HostProbe
