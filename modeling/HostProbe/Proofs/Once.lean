import HostProbe.Once
import Mathlib.Data.List.Basic
import Mathlib.Data.List.Infix
import Mathlib.Tactic.Common

/-! Programs over one guard. A guard lets a setup begin only after a reset or a setup that failed since
the last one began; so without resets the setups of a program run one after another up to the first that
succeeds, and none of them inside another. -/

namespace HostProbe.Once

variable {ε : Type}

inductive Event (ε : Type) where
  | reset
  | began (name : String)
  | ended (name : String) (outcome : Except ε Unit)

namespace Event

def began? : Event ε → Option String
  | .began name => some name
  | _ => none

def Reopens : Event ε → Prop
  | .reset => True
  | .began _ => False
  | .ended _ outcome => outcome.isOk = false

end Event

structure Journal (ε : Type) where
  guard : Once
  events : List (Event ε)

namespace Journal

def blank : Journal ε := ⟨fresh, []⟩

def mark (guard : Once) (j : Journal ε) : Journal ε := { j with guard }

def add (e : Event ε) (j : Journal ε) : Journal ε := { j with events := j.events ++ [e] }

def trace (j : Journal ε) : Trace := ⟨j.guard, j.events.filterMap Event.began?⟩

end Journal

mutual

def Step.recount : Step ε → Journal ε → Answer ε × Journal ε
  | .reset, j => (.reset, (j.mark fresh).add .reset)
  | .request name inner outcome, j =>
    let (result, j) := ensure Journal.guard Journal.mark (fun j => (outcome,
      (Step.recountAll inner (j.add (.began name))).add (.ended name outcome))) j
    (.request result, j)

def Step.recountAll : List (Step ε) → Journal ε → Journal ε
  | [], j => j
  | s :: rest, j => Step.recountAll rest (s.recount j).2

end

variable {j : Journal ε} {name : String} {inner steps : List (Step ε)} {outcome : Except ε Unit}

section Recount

lemma recount_of_done (h : j.guard.done = true) :
    (Step.request name inner outcome).recount j = (.request (.ok ()), j) := by
  simp only [Step.recount, ensure, if_pos h]

lemma recount_of_not_done (h : j.guard.done = false) :
    (Step.request name inner outcome).recount j = (.request outcome,
      let told := (Step.recountAll inner ((j.mark ⟨true⟩).add (.began name))).add (.ended name outcome)
      if outcome.isOk then told else told.mark fresh) := by
  simp only [Step.recount, ensure, h, Bool.false_eq_true, if_false]
  cases outcome with
  | error e => rfl
  | ok u => rfl

@[simp] lemma trace_mark (guard : Once) (j : Journal ε) :
    (j.mark guard).trace = { j.trace with guard } := rfl

@[simp] lemma trace_began (name : String) (j : Journal ε) :
    (j.add (.began name)).trace = { j.trace with ran := j.trace.ran ++ [name] } := by
  simp [Journal.add, Journal.trace, Event.began?]

@[simp] lemma trace_ended (name : String) (outcome : Except ε Unit) (j : Journal ε) :
    (j.add (.ended name outcome)).trace = j.trace := by
  simp [Journal.add, Journal.trace, Event.began?]

@[simp] lemma trace_reset (j : Journal ε) : (j.add .reset).trace = j.trace := by
  simp [Journal.add, Journal.trace, Event.began?]

mutual

theorem Step.run_trace (s : Step ε) (j : Journal ε) :
    s.run j.trace = ((s.recount j).1, (s.recount j).2.trace) := by
  cases s with
  | reset => simp [Step.run, Step.recount]
  | request name inner outcome =>
    cases h : j.guard.done with
    | true =>
      rw [recount_of_done h]
      simp [Step.run, ensure, Journal.trace, h]
    | false =>
      have hguard : j.trace.guard.done = false := h
      have hinner := Step.runAll_trace inner ((j.mark ⟨true⟩).add (.began name))
      simp only [trace_began, trace_mark] at hinner
      rw [recount_of_not_done h]
      simp only [Step.run, ensure, hguard, Bool.false_eq_true, if_false, hinner]
      cases outcome with
      | ok u => simp [Except.isOk, Except.toBool]
      | error e => simp [Except.isOk, Except.toBool, fresh]

theorem Step.runAll_trace (steps : List (Step ε)) (j : Journal ε) :
    Step.runAll steps j.trace = (Step.recountAll steps j).trace := by
  cases steps with
  | nil => rfl
  | cons s rest =>
    rw [Step.runAll, Step.run_trace s j]
    exact Step.runAll_trace rest (s.recount j).2

end

end Recount

section Spacing

def Spaced (events : List (Event ε)) : Prop :=
  ∀ a between b, .began a :: (between ++ [.began b]) <:+: events → ∃ e ∈ between, e.Reopens

def Clear (events : List (Event ε)) : Prop :=
  ∀ a later, .began a :: later <:+ events → ∃ e ∈ later, e.Reopens

variable {events : List (Event ε)} {e : Event ε}

lemma Spaced.concat (h : Spaced events) (hclear : ∀ a, e = .began a → Clear events) :
    Spaced (events ++ [e]) := by
  intro a between b hpart
  rcases List.infix_concat_iff.mp hpart with hlast | hearlier
  · rw [← List.cons_append] at hlast
    obtain hnil | ⟨part, hpart, hsuffix⟩ := List.suffix_concat_iff.mp hlast
    · simp at hnil
    · obtain ⟨rfl, hb⟩ := List.append_inj' hpart rfl
      exact hclear b (List.singleton_inj.mp hb).symm a between hsuffix
  · exact h a between b hearlier

lemma Clear.concat (h : e.Reopens ∨ (∀ a, e ≠ .began a) ∧ Clear events) : Clear (events ++ [e]) := by
  intro a later hsuffix
  obtain hnil | ⟨part, hpart, hearlier⟩ := List.suffix_concat_iff.mp hsuffix
  · simp at hnil
  · cases part with
    | nil =>
      -- The last event is itself the start, so it does not reopen.
      obtain ⟨rfl, rfl⟩ : e = .began a ∧ later = [] := by simpa [eq_comm] using hpart
      rcases h with hreopens | ⟨hnot, -⟩
      · exact hreopens.elim
      · exact absurd rfl (hnot a)
    | cons x part =>
      obtain ⟨rfl, rfl⟩ : x = .began a ∧ later = part ++ [e] := by simpa [eq_comm] using hpart
      rcases h with hreopens | ⟨-, hclear⟩
      · exact ⟨e, by simp, hreopens⟩
      · obtain ⟨r, hr, hreopens⟩ := hclear a part hearlier
        exact ⟨r, List.mem_append_left _ hr, hreopens⟩

structure Sound (j : Journal ε) : Prop where
  spaced : Spaced j.events
  clear : j.guard.done = false → Clear j.events

lemma sound_blank : Sound (.blank : Journal ε) where
  spaced a between b h := by simp [Journal.blank] at h
  clear _ a later h := by simp [Journal.blank] at h

lemma Sound.begin (h : Sound j) (hdone : j.guard.done = false) (name : String) :
    Sound ((j.mark ⟨true⟩).add (.began name)) where
  spaced := h.spaced.concat fun _ _ => h.clear hdone
  clear hnot := by cases hnot

lemma Sound.finish (h : Sound j) (name : String) (outcome : Except ε Unit) :
    Sound (if outcome.isOk then j.add (.ended name outcome) else (j.add (.ended name outcome)).mark fresh) := by
  have hspaced : Spaced (j.add (.ended name outcome)).events := h.spaced.concat nofun
  cases hok : outcome.isOk with
  | true => exact ⟨hspaced, fun hdone => .concat (.inr ⟨nofun, h.clear hdone⟩)⟩
  | false => exact ⟨hspaced, fun _ => .concat (.inl hok)⟩

mutual

theorem Sound.recount {j : Journal ε} (h : Sound j) (s : Step ε) : Sound (s.recount j).2 := by
  cases s with
  | reset => exact ⟨h.spaced.concat nofun, fun _ => .concat (.inl trivial)⟩
  | request name inner outcome =>
    cases hdone : j.guard.done with
    | true =>
      rw [recount_of_done hdone]
      exact h
    | false =>
      rw [recount_of_not_done hdone]
      exact ((h.begin hdone name).recountAll inner).finish name outcome

theorem Sound.recountAll {j : Journal ε} (h : Sound j) (steps : List (Step ε)) :
    Sound (Step.recountAll steps j) := by
  cases steps with
  | nil => exact h
  | cons s rest => exact (h.recount s).recountAll rest

end

end Spacing

section Resetless

inductive Step.Resetless : Step ε → Prop
  | request {name : String} {inner : List (Step ε)} {outcome : Except ε Unit}
      (h : ∀ s ∈ inner, s.Resetless) : Resetless (.request name inner outcome)

def Step.account : Step ε → List (Event ε)
  | .reset => [.reset]
  | .request name _ outcome => [.began name, .ended name outcome]

def Step.succeeds : Step ε → Bool
  | .reset => false
  | .request _ _ outcome => outcome.isOk

lemma recountAll_of_done (hs : ∀ s ∈ steps, s.Resetless) (h : j.guard.done = true) :
    Step.recountAll steps j = j := by
  induction steps with
  | nil => rfl
  | cons s rest ih =>
    obtain ⟨hfirst, hrest⟩ := List.forall_mem_cons.mp hs
    cases hfirst with
    | request hinner =>
      rw [Step.recountAll, recount_of_done h]
      exact ih hrest

lemma recountAll_resetless (hs : ∀ s ∈ steps, s.Resetless) (h : j.guard.done = false) :
    Step.recountAll steps j = ⟨⟨steps.any Step.succeeds⟩,
      j.events ++ (steps.take (steps.findIdx Step.succeeds + 1)).flatMap Step.account⟩ := by
  induction steps generalizing j with
  | nil =>
    have hguard : j.guard = ⟨false⟩ := by rw [← h]
    simp [Step.recountAll, ← hguard]
  | cons s rest ih =>
    obtain ⟨hfirst, hrest⟩ := List.forall_mem_cons.mp hs
    cases hfirst with
    | @request name inner outcome hinner =>
      rw [Step.recountAll, recount_of_not_done h, recountAll_of_done hinner rfl]
      cases hok : outcome.isOk with
      | true =>
        dsimp only
        rw [if_pos rfl, recountAll_of_done hrest rfl]
        simp [Step.succeeds, hok, Step.account, Journal.add, Journal.mark, List.findIdx_cons]
      | false =>
        dsimp only
        rw [if_neg Bool.false_ne_true, ih hrest rfl]
        simp [Step.succeeds, hok, Step.account, Journal.add, Journal.mark, List.findIdx_cons]

lemma exists_ended_iff (steps : List (Step ε)) :
    (∃ name, .ended name (.ok ()) ∈ steps.flatMap Step.account) ↔ steps.any Step.succeeds = true := by
  induction steps with
  | nil => simp
  | cons s rest ih =>
    have hfirst : (∃ name, .ended name (.ok ()) ∈ s.account) ↔ s.succeeds = true := by
      cases s with
      | reset => simp [Step.account, Step.succeeds]
      | request name inner outcome =>
        cases outcome with
        | error e => simp [Step.account, Step.succeeds, Except.isOk, Except.toBool]
        | ok u => simp [Step.account, Step.succeeds, Except.isOk, Except.toBool]
    simp only [List.flatMap_cons, List.mem_append, exists_or, ih, hfirst, List.any_cons,
      Bool.or_eq_true]

lemma any_take_findIdx {α : Type} (p : α → Bool) (xs : List α) :
    (xs.take (xs.findIdx p + 1)).any p = xs.any p := by
  induction xs with
  | nil => rfl
  | cons x xs ih =>
    cases hx : p x with
    | true => simp [List.findIdx_cons, hx]
    | false => simp [List.findIdx_cons, hx, ih]

end Resetless

/-- Between the starts of two setups of a program there is a reset or a setup that failed. Without
resets the setups up to the first that succeeds run, each to its end before the next begins; a request
ends as its own setup does as long as none succeeded, and from then on it succeeds and nothing happens. -/
theorem setups_run_up_to_first_success (steps : List (Step ε)) :
    let told := Step.recountAll steps .blank
    Step.runAll steps ⟨fresh, []⟩ = told.trace ∧ Spaced told.events ∧
    ((∀ s ∈ steps, s.Resetless) →
      told.events = (steps.take (steps.findIdx Step.succeeds + 1)).flatMap Step.account ∧
      (told.guard.done = true ↔ ∃ name, .ended name (.ok ()) ∈ told.events) ∧
      (∀ t : Trace, t.guard.done = true → Step.runAll steps t = t) ∧
      ∀ name (inner : List (Step ε)) outcome,
        let next := (Step.request name inner outcome).run told.trace
        if told.guard.done then next = (.request (.ok ()), told.trace) else next.1 = .request outcome) := by
  intro told
  refine ⟨Step.runAll_trace steps .blank, (sound_blank.recountAll steps).spaced, fun hs => ?_⟩
  have htold : told = _ := recountAll_resetless hs rfl
  refine ⟨by rw [htold]; rfl, ?_, fun t ht => ?_, fun name inner outcome => ?_⟩
  · have hevents : told.events = (steps.take (steps.findIdx Step.succeeds + 1)).flatMap Step.account := by
      rw [htold]
      rfl
    rw [hevents, exists_ended_iff, any_take_findIdx, htold]
  · have hsame := Step.runAll_trace steps (⟨t.guard, t.ran.map .began⟩ : Journal ε)
    rw [recountAll_of_done hs ht] at hsame
    have ht' : (⟨t.guard, t.ran.map .began⟩ : Journal ε).trace = t := by
      simp [Journal.trace, List.filterMap_map, Function.comp_def, Event.began?]
    rwa [ht'] at hsame
  · rw [Step.run_trace]
    cases hdone : told.guard.done with
    | true => rw [if_pos rfl, recount_of_done hdone]
    | false => rw [if_neg Bool.false_ne_true, recount_of_not_done hdone]

theorem setups_run_up_to_first_success_nested :
    let steps : List (Step String) := [.request "link" [.request "sudo" [] (.ok ())] (.error "down"),
      .request "link" [.request "sudo" [] (.error "no sudo")] (.ok ()),
      .request "link" [] (.error "late")]
    (∀ s ∈ steps, s.Resetless) ∧ (Step.recountAll steps .blank).events =
      [.began "link", .ended "link" (.error "down"), .began "link", .ended "link" (.ok ())] := by
  intro steps
  have hleaf : ∀ name outcome, (Step.request name [] outcome : Step String).Resetless :=
    fun name outcome => .request (by simp)
  have hs : ∀ s ∈ steps, s.Resetless := by
    simp only [steps, List.forall_mem_cons]
    exact ⟨.request (by simp [hleaf]), .request (by simp [hleaf]), hleaf _ _, by simp⟩
  exact ⟨hs, ((setups_run_up_to_first_success steps).2.2 hs).1⟩

end HostProbe.Once
