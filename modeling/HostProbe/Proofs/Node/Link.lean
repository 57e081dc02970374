import HostProbe.Proofs.Node.Cache

/-! The use of a transport over runs of calls. A transport is asked to connect only while the way is
not open, and to run and to close only while it is; what was stored before a close is gone after it. -/

namespace HostProbe

variable {σ : Type}

inductive LinkEvent where
  | connected
  | refused
  | ran (request : CommandRequest)
  | closed
  deriving DecidableEq

def Transport.recorded (way : Transport σ) : Transport (σ × List LinkEvent) where
  describe := way.describe
  isRemote := way.isRemote
  connect m :=
    let (r, machine) := way.connect m.1
    (r, machine, m.2 ++ [if r.isOk then .connected else .refused])
  run request m :=
    let (r, machine) := way.run request m.1
    (r, machine, m.2 ++ [.ran request])
  close m :=
    let (r, machine) := way.close m.1
    (r, machine, m.2 ++ [.closed])

def Node.recorded (n : Node σ) : Node (σ × List LinkEvent) where
  name := n.name
  transport := n.transport.recorded
  timeoutMs := n.timeoutMs
  alwaysSudo := n.alwaysSudo

def Up (trace : List LinkEvent) : Prop :=
  ∃ earlier later, trace = earlier ++ .connected :: later ∧ ∀ e ∈ later, ∃ q, e = .ran q

def LinkEvent.Fits (trace : List LinkEvent) : LinkEvent → Prop
  | .connected | .refused => ¬ Up trace
  | .ran _ | .closed => Up trace

def Orderly (trace : List LinkEvent) : Prop :=
  ∀ earlier e later, trace = earlier ++ e :: later → e.Fits earlier

variable {trace : List LinkEvent} {e : LinkEvent}

lemma not_up_nil : ¬ Up [] := by
  rintro ⟨earlier, later, h, -⟩
  exact List.append_ne_nil_of_right_ne_nil _ (List.cons_ne_nil _ _) h.symm

lemma split_snoc {x : LinkEvent} {earlier later : List LinkEvent}
    (h : trace ++ [e] = earlier ++ x :: later) : (later = [] ∧ earlier = trace ∧ x = e) ∨
      ∃ l, later = l ++ [e] ∧ trace = earlier ++ x :: l := by
  rcases List.eq_nil_or_concat later with rfl | ⟨l, e', rfl⟩
  · obtain ⟨htrace, he⟩ := List.append_inj' h rfl
    exact .inl ⟨rfl, htrace.symm, (List.singleton_inj.mp he).symm⟩
  · rw [List.concat_eq_append, ← List.cons_append, ← List.append_assoc] at h
    obtain ⟨htrace, he⟩ := List.append_inj' h rfl
    exact .inr ⟨l, by rw [List.concat_eq_append, he], htrace⟩

lemma up_snoc : Up (trace ++ [e]) ↔ e = .connected ∨ (∃ q, e = .ran q) ∧ Up trace := by
  constructor
  · rintro ⟨earlier, later, h, hlater⟩
    rcases split_snoc h with ⟨-, -, he⟩ | ⟨l, rfl, htrace⟩
    · exact .inl he.symm
    · refine .inr ⟨hlater e (by simp), earlier, l, htrace, fun x hx => ?_⟩
      exact hlater x (List.mem_append_left _ hx)
  · rintro (rfl | ⟨⟨q, rfl⟩, earlier, later, rfl, hlater⟩)
    · exact ⟨trace, [], rfl, by simp⟩
    · refine ⟨earlier, later ++ [.ran q], by simp, fun x hx => ?_⟩
      rcases List.mem_append.mp hx with hx | hx
      · exact hlater x hx
      · exact ⟨q, List.mem_singleton.mp hx⟩

lemma orderly_nil : Orderly [] := by
  intro earlier e later h
  exact absurd h.symm (List.append_ne_nil_of_right_ne_nil _ (List.cons_ne_nil _ _))

lemma Orderly.snoc (h : Orderly trace) (he : e.Fits trace) : Orderly (trace ++ [e]) := by
  intro earlier x later heq
  rcases split_snoc heq with ⟨-, rfl, rfl⟩ | ⟨l, -, htrace⟩
  · exact he
  · exact h earlier x l htrace

def Recorded (up : Bool) (m : σ × List LinkEvent) : Prop := Orderly m.2 ∧ (up = true ↔ Up m.2)

lemma Transport.obeys_recorded (way : Transport σ) : way.recorded.Obeys Recorded where
  connect m h := by
    have hdown : ¬ Up m.2 := fun hup => Bool.false_ne_true (h.2.mpr hup)
    change Recorded (way.connect m.1).1.isOk
      (_, m.2 ++ [if (way.connect m.1).1.isOk then .connected else .refused])
    cases (way.connect m.1).1.isOk with
    | true => exact ⟨h.1.snoc hdown, by simp [up_snoc]⟩
    | false => exact ⟨h.1.snoc hdown, by simp [up_snoc]⟩
  run q m h := by
    have hup : Up m.2 := h.2.mp rfl
    exact ⟨h.1.snoc hup, by simp [Transport.recorded, up_snoc, hup]⟩
  close m h := by
    have hup : Up m.2 := h.2.mp rfl
    exact ⟨h.1.snoc hup, by simp [Transport.recorded, up_snoc]⟩

/-- After any calls on a new node, its transport was asked to connect only while the way was not open,
and to run and to close only while it was. A node that is not connected has nothing stored, and what
answers a command after a close without asking the machine was run after that close. -/
theorem transport_used_in_order (n : Node σ) {machine : σ} {os : Option Os} {calls : List Call}
    {s : NodeState (σ × List LinkEvent)}
    (hs : n.recorded.afterAll { machine := (machine, []), os } calls = s) :
    Orderly s.machine.2 ∧ (s.connection.done = true ↔ Up s.machine.2) ∧
    (s.connection.done = false → s.results = []) ∧
    ∀ before later, calls = before ++ .close :: later → ∀ command opts result,
      (n.recorded.executeCached command opts s).1 = .ok result →
      (n.recorded.executeCached command opts s).2.contacts = s.contacts →
      n.recorded.LastRan
        (n.recorded.afterAll { machine := (machine, []), os } (before ++ [.close])) later
        (n.recorded.question command opts s) result := by
  subst hs
  -- The record is part of the machine, so an orderly use is a rule that the transport obeys.
  have hobeys : n.recorded.transport.Obeys Recorded := n.transport.obeys_recorded
  have hstart : Linked Recorded ({ machine := (machine, []), os } : NodeState (σ × List LinkEvent)) :=
    ⟨⟨orderly_nil, by simp [not_up_nil, Once.fresh]⟩, fun _ => rfl⟩
  have hlinked := linked_afterAll hobeys hstart
  refine ⟨(hlinked calls).link.1, (hlinked calls).link.2, (hlinked calls).forgotten, ?_⟩
  intro before later hcalls command opts result hok hcontacts
  have hempty : (n.recorded.afterAll { machine := (machine, []), os }
      (before ++ [.close])).results = [] := by
    rw [Node.afterAll_append]
    exact Node.results_close (hlinked before)
  have hafter : n.recorded.afterAll
      (n.recorded.afterAll { machine := (machine, []), os } (before ++ [.close])) later =
      n.recorded.afterAll { machine := (machine, []), os } calls := by
    rw [← Node.afterAll_append, hcalls, List.append_assoc, List.singleton_append]
  refine ((Node.served_afterAll ?_ hempty hafter).mp ⟨hok, hcontacts⟩).2.2
  exact Node.nodup_names_afterAll Node.nodup_names_start _

theorem transport_used_in_order_reopened :
    let n := (Node.replying fun _ => ⟨0, "", ""⟩).recorded
    let s := n.afterAll { machine := ((), []), os := none } [.supportsSudo, .close, .close, .connect]
    s.machine.2 = [.connected, .ran ⟨"command -v sudo", true, none, [], 600000⟩, .closed, .connected] ∧
      Orderly s.machine.2 := by
  intro n s
  exact ⟨by decide, (transport_used_in_order (Node.replying fun _ => ⟨0, "", ""⟩) rfl).1⟩

end HostProbe
