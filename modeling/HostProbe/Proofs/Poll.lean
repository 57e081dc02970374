import HostProbe.Poll
import Mathlib.Algebra.Order.Floor.Div
import Mathlib.Order.Monotone.Basic
import Mathlib.Tactic.Common

/-! Polls, over all readings and all clocks. A poll ends with the first reading that is expected or that
is taken when the time is over. No pause reaches past the deadline, so that a poll that sleeps as long as
it asks for takes only so many readings. -/

namespace HostProbe

open HostProbe.Text

namespace Expected

def texts : Expected → List String
  | .value text => [text]
  | .anyOf texts => texts

def Admits (e : Expected) (reading : Reading) : Prop :=
  ∃ observed, reading = .ok observed ∧ ∃ text ∈ e.texts, trimmed text = trimmed observed

end Expected

/-- What was done for a poll: how often a value was read, how often the clock was, and the pauses that
were asked for, each with the time of asking. -/
structure Watch where
  taken : Nat := 0
  looks : Nat := 0
  pauses : List (Nat × Nat) := []

namespace Watch

variable (readings : Nat → Reading) (clock : Nat → Nat)

def take : StateM Watch Reading := modifyGet fun w => (readings w.taken, { w with taken := w.taken + 1 })

def look : StateM Watch Nat := modifyGet fun w => (clock w.looks, { w with looks := w.looks + 1 })

def pause (ms : Nat) : StateM Watch Unit :=
  modify fun w => { w with pauses := w.pauses ++ [(clock (w.looks - 1), ms)].filter (0 < ·.2) }

variable {readings clock} {α : Type} {w : Watch}

lemma take_bind (f : Reading → StateM Watch α) :
    (take readings >>= f) w = f (readings w.taken) { w with taken := w.taken + 1 } := rfl

lemma look_bind (f : Nat → StateM Watch α) :
    (look clock >>= f) w = f (clock w.looks) { w with looks := w.looks + 1 } := rfl

end Watch

namespace Poller

section Observe

variable (p : Poller)

def reached (state : PollState) (reads : Nat) : Poller := { p with state, reads }

lemma accepts_iff (reading : Reading) : p.accepts reading = true ↔ p.expected.Admits reading := by
  cases reading with
  | error e => simp [accepts, Expected.Admits]
  | ok observed =>
    cases h : p.expected with
    | value text => simp [accepts, Expected.accepts, Expected.Admits, Expected.texts, h]
    | anyOf texts => simp [accepts, Expected.accepts, Expected.Admits, Expected.texts, h]

lemma observe_reached (reading : Reading) (elapsed r : Nat) :
    (p.reached .polling r).observe reading elapsed = p.reached (if p.accepts reading then .matched
      else if p.timeout ≤ elapsed then .timedOut else .polling) (r + 1) := rfl

variable {p}

lemma accepts_of_matched {reading : Reading} {elapsed : Nat} (hp : p.state = .polling)
    (h : (p.observe reading elapsed).state = .matched) : p.accepts reading = true := by
  rw [observe, hp] at h
  by_contra hrejects
  simp only [hrejects, if_false] at h
  split at h
  · cases h
  · cases h

lemma observe_expected (reading : Reading) (elapsed : Nat) :
    (p.observe reading elapsed).expected = p.expected := by
  unfold observe
  split <;> rfl

lemma observe_of_ended (h : p.state ≠ .polling) (reading : Reading) (elapsed : Nat) :
    p.observe reading elapsed = p := by
  unfold observe
  split
  · next hpolling => exact absurd hpolling h
  · rfl

lemma foldl_observe_of_ended (h : p.state ≠ .polling) (observations : List (Reading × Nat)) :
    observations.foldl (fun p o => p.observe o.1 o.2) p = p := by
  induction observations with
  | nil => rfl
  | cons o rest ih => rw [List.foldl_cons, observe_of_ended h, ih]

end Observe

section Run

variable (readings : Nat → Reading) (clock : Nat → Nat) (p : Poller)

def watch (left : Nat) : StateM Watch Poller :=
  follow (Watch.take readings) (Watch.look clock) (Watch.pause clock) left p

def timeAfter (i : Nat) : Nat := clock (2 * i)

def pauseAfter (i : Nat) : Nat × Nat := (clock (2 * i + 1), p.pause (clock (2 * i + 1)))

def pausesAfter (is : List Nat) : List (Nat × Nat) := (is.map (pauseAfter clock p)).filter (0 < ·.2)

def Idle (i : Nat) : Prop := ¬ p.expected.Admits (readings i) ∧ timeAfter clock i < p.timeout

def ending (i : Nat) : PollState := if p.accepts (readings i) then .matched else .timedOut

variable {readings clock p} {q : Poller} {w : Watch} {left r : Nat}

section Round

variable (hq : p.observe (readings w.taken) (clock w.looks) = q)

include hq

lemma watch_of_polling (h : q.state = .polling) : p.watch readings clock (left + 1) w =
    q.watch readings clock left ⟨w.taken + 1, w.looks + 2,
      w.pauses ++ [(clock (w.looks + 1), q.pause (clock (w.looks + 1)))].filter (0 < ·.2)⟩ := by
  subst hq
  rw [watch, follow, Watch.take_bind, Watch.look_bind, h]
  rfl

lemma watch_of_ended (h : q.state ≠ .polling) :
    p.watch readings clock (left + 1) w = (q, ⟨w.taken + 1, w.looks + 1, w.pauses⟩) := by
  subst hq
  rw [watch, follow, Watch.take_bind, Watch.look_bind]
  cases hs : (p.observe (readings w.taken) (clock w.looks)).state with
  | polling => exact absurd hs h
  | matched => rfl
  | timedOut => rfl

end Round

lemma not_idle_iff {i : Nat} : ¬ p.Idle readings clock i ↔
    p.expected.Admits (readings i) ∨ p.timeout ≤ timeAfter clock i := by
  rw [Idle, not_and_or, not_not, Nat.not_lt]

lemma ending_eq_matched_iff {i : Nat} :
    p.ending readings i = .matched ↔ p.expected.Admits (readings i) := by
  rw [← accepts_iff, ending]
  split
  · next h => exact iff_of_true rfl h
  · next h => exact iff_of_false nofun h

lemma ending_ne_polling (i : Nat) : p.ending readings i ≠ .polling := by
  unfold ending
  split
  · exact nofun
  · exact nofun

lemma pausesAfter_cons (i : Nat) (is : List Nat) :
    p.pausesAfter clock (i :: is) = p.pausesAfter clock [i] ++ p.pausesAfter clock is := by
  rw [pausesAfter, pausesAfter, pausesAfter, ← List.filter_append, ← List.map_append, List.singleton_append]

variable (hw : w.looks = 2 * w.taken)

include hw

lemma watch_of_idle (h : p.Idle readings clock w.taken) :
    (p.reached .polling r).watch readings clock (left + 1) w =
      (p.reached .polling (r + 1)).watch readings clock left
        ⟨w.taken + 1, 2 * (w.taken + 1), w.pauses ++ p.pausesAfter clock [w.taken]⟩ := by
  obtain ⟨hunexpected, htime⟩ := h
  rw [← accepts_iff] at hunexpected
  rw [timeAfter, ← hw] at htime
  have hobserve := p.observe_reached (readings w.taken) (clock w.looks) r
  rw [if_neg hunexpected, if_neg (Nat.not_le.mpr htime)] at hobserve
  rw [watch_of_polling hobserve rfl, hw]
  rfl

lemma watch_of_not_idle (h : ¬ p.Idle readings clock w.taken) :
    (p.reached .polling r).watch readings clock (left + 1) w =
      (p.reached (p.ending readings w.taken) (r + 1),
        ⟨w.taken + 1, 2 * w.taken + 1, w.pauses⟩) := by
  have hobserve : (p.reached .polling r).observe (readings w.taken) (clock w.looks) =
      p.reached (p.ending readings w.taken) (r + 1) := by
    rw [observe_reached, ending]
    by_cases haccepts : p.accepts (readings w.taken) = true
    · rw [if_pos haccepts, if_pos haccepts]
    · have htime : p.timeout ≤ clock w.looks := by
        rw [hw]
        exact Nat.not_lt.mp fun hlt => h ⟨(p.accepts_iff _).not.mp haccepts, hlt⟩
      rw [if_neg haccepts, if_neg haccepts, if_pos htime]
  rw [watch_of_ended hobserve (ending_ne_polling w.taken), hw]

lemma watch_of_endsAt {k : Nat} (hidle : ∀ i < k, p.Idle readings clock (w.taken + i))
    (hends : ¬ p.Idle readings clock (w.taken + k)) (hk : k < left) :
    (p.reached .polling r).watch readings clock left w =
      (p.reached (p.ending readings (w.taken + k)) (r + k + 1),
        ⟨w.taken + k + 1, 2 * (w.taken + k) + 1,
          w.pauses ++ p.pausesAfter clock (List.range' w.taken k)⟩) := by
  induction k generalizing left r w with
  | zero =>
    cases left with
    | zero => omega
    | succ left => simpa [pausesAfter] using watch_of_not_idle hw hends
  | succ k ih =>
    cases left with
    | zero => omega
    | succ left =>
      have hshift : ∀ a i, a + 1 + i = a + (i + 1) := by omega
      have hrest : ∀ i < k, p.Idle readings clock (w.taken + 1 + i) := by
        intro i hi
        rw [hshift]
        exact hidle (i + 1) (by omega)
      rw [watch_of_idle hw (hidle 0 (by omega)), ih rfl hrest (by rwa [hshift]) (by omega)]
      rw [List.append_assoc, ← pausesAfter_cons, ← List.range'_succ]
      simp only [hshift]

omit hw in
lemma watch_of_first {k : Nat} (hidle : ∀ i < k, p.Idle readings clock i)
    (hends : ¬ p.Idle readings clock k) (hk : k < left) :
    (p.reached .polling 0).watch readings clock left {} = (p.reached (p.ending readings k) (k + 1),
      ⟨k + 1, 2 * k + 1, p.pausesAfter clock (List.range k)⟩) := by
  have hstop := watch_of_endsAt (p := p) (w := {}) (r := 0) rfl (by simpa using hidle)
    (by simpa using hends) hk
  simpa [List.range_eq_range'] using hstop

end Run

section Time

variable {clock : Nat → Nat} {p : Poller} {k : Nat}

lemma mul_interval_le_timeAfter (hclock : Monotone clock)
    (hsleep : ∀ i < k, clock (2 * i + 1) + p.pause (clock (2 * i + 1)) ≤ clock (2 * i + 2))
    (hearly : ∀ i < k, timeAfter clock i < p.timeout) : ∀ i < k, i * p.interval ≤ timeAfter clock i := by
  intro i hi
  induction i with
  | zero => simp
  | succ i ih =>
    have hbefore : i * p.interval ≤ clock (2 * i) := ih (by omega)
    have hlook : clock (2 * i) ≤ clock (2 * i + 1) := hclock (by omega)
    have hslept : clock (2 * i + 1) + min p.interval (p.timeout - clock (2 * i + 1)) ≤
        clock (2 * i + 2) := hsleep i (by omega)
    have hnext : clock (2 * i + 2) < p.timeout := hearly (i + 1) hi
    rw [Nat.succ_mul]
    change _ ≤ clock (2 * i + 2)
    omega

lemma le_ceilDiv_of_early (hinterval : 0 < p.interval) (hclock : Monotone clock)
    (hsleep : ∀ i < k, clock (2 * i + 1) + p.pause (clock (2 * i + 1)) ≤ clock (2 * i + 2))
    (hearly : ∀ i < k, timeAfter clock i < p.timeout) : k ≤ p.timeout ⌈/⌉ p.interval := by
  cases k with
  | zero => exact Nat.zero_le _
  | succ k =>
    have hlast := mul_interval_le_timeAfter hclock hsleep hearly k (by omega)
    refine Nat.succ_le_of_lt (Nat.lt_of_not_le fun hle => ?_)
    rw [ceilDiv_le_iff_le_mul hinterval, Nat.mul_comm] at hle
    exact absurd (hearly k (by omega)) (Nat.not_lt.mpr (hle.trans hlast))

lemma pause_le (p : Poller) (elapsed : Nat) : p.pause elapsed ≤ p.interval := Nat.min_le_left _ _

lemma add_pause_le {elapsed : Nat} (h : 0 < p.pause elapsed) : elapsed + p.pause elapsed ≤ p.timeout := by
  unfold pause at h ⊢
  omega

end Time

/-- A poll that takes fewer readings than it can count ends with its first reading that is expected or
that is not taken before the time is over, and it matched if that reading is expected. No pause is longer
than the interval or reaches past the deadline, so that a poll with a clock that does not go back, and with
sleeps that last as long as they should, takes at most one reading more than there are intervals. A poll
that ended stays as it is. -/
theorem ends_with_first_expected_or_late {expected : Expected} {interval timeout : Nat}
    {readings : Nat → Reading} {clock : Nat → Nat} {p q : Poller} {w : Watch}
    (hp : p = start expected interval timeout) (hrun : p.watch readings clock readLimit {} = (q, w))
    (hfew : ∃ k, k + 1 < UInt32.size ∧ (expected.Admits (readings k) ∨ timeout ≤ timeAfter clock k)) :
    (q.state = .matched ↔
      ∃ i, expected.Admits (readings i) ∧ ∀ j < i, timeAfter clock j < timeout) ∧
    q.state ≠ .polling ∧ q.reads = w.taken ∧
    (∃ k, w.taken = k + 1 ∧
      (∀ i < k, ¬ expected.Admits (readings i) ∧ timeAfter clock i < timeout) ∧
      if q.state = .matched then expected.Admits (readings k)
      else ¬ expected.Admits (readings k) ∧ timeout ≤ timeAfter clock k) ∧
    (∀ asked ms, (asked, ms) ∈ w.pauses → ms ≤ interval ∧ asked + ms ≤ timeout) ∧
    (0 < interval → Monotone clock →
      (∀ i, i + 1 < w.taken → clock (2 * i + 1) + p.pause (clock (2 * i + 1)) ≤ clock (2 * i + 2)) →
      w.taken ≤ timeout ⌈/⌉ interval + 1) ∧
    ∀ (ended : Poller) (observations : List (Reading × Nat)), ended.state ≠ .polling →
      observations.foldl (fun p o => p.observe o.1 o.2) ended = ended := by
  classical
  subst hp
  obtain ⟨k₀, hk₀, hends₀⟩ := hfew
  have hsome : ∃ k, ¬ (start expected interval timeout).Idle readings clock k :=
    ⟨k₀, not_idle_iff.mpr hends₀⟩
  obtain ⟨k, hk, hends, hidle⟩ : ∃ k ≤ k₀, ¬ (start expected interval timeout).Idle readings clock k ∧
      ∀ i < k, (start expected interval timeout).Idle readings clock i :=
    ⟨Nat.find hsome, Nat.find_min' hsome (not_idle_iff.mpr hends₀), Nat.find_spec hsome,
      fun i hi => not_not.mp (Nat.find_min hsome hi)⟩
  have hlimit : k < readLimit := Nat.lt_sub_of_add_lt (by omega)
  have hstop := watch_of_first hidle hends hlimit
  obtain ⟨rfl, rfl⟩ := Prod.mk.inj (hrun.symm.trans hstop)
  have hmatched : (start expected interval timeout).ending readings k = .matched ↔
      expected.Admits (readings k) := ending_eq_matched_iff
  refine ⟨hmatched.trans ⟨fun hadmits => ⟨k, hadmits, fun j hj => (hidle j hj).2⟩, ?_⟩,
    ending_ne_polling k, rfl, ⟨k, rfl, hidle, ?_⟩, ?_, ?_, fun _ os hended => foldl_observe_of_ended hended os⟩
  · rintro ⟨i, hadmits, hearly⟩
    -- The poll ends no later than with this reading, and before it the time is not over.
    have hki : k ≤ i := Nat.le_of_not_lt fun hlt => (hidle i hlt).1 hadmits
    rcases Nat.lt_or_eq_of_le hki with hlt | rfl
    · exact (not_idle_iff.mp hends).resolve_right (Nat.not_le.mpr (hearly k hlt))
    · exact hadmits
  · split
    · next hstate => exact hmatched.mp hstate
    · next hstate =>
      have hunexpected := hmatched.not.mp hstate
      exact ⟨hunexpected, (not_idle_iff.mp hends).resolve_left hunexpected⟩
  · intro asked ms hpause
    obtain ⟨hasked, hpositive⟩ := List.mem_filter.mp hpause
    obtain ⟨i, -, hi⟩ := List.mem_map.mp hasked
    obtain ⟨rfl, rfl⟩ := Prod.ext_iff.mp hi
    exact ⟨pause_le _ _, add_pause_le (of_decide_eq_true hpositive)⟩
  · intro hinterval hclock hsleep
    refine Nat.succ_le_succ (le_ceilDiv_of_early (p := start expected interval timeout) hinterval hclock
      (fun i hi => hsleep i (Nat.succ_lt_succ hi)) fun i hi => (hidle i hi).2)

def startingUp : Nat → Reading
  | 0 => .error "no such file"
  | 1 => .ok "loading"
  | _ => .ok "ready\n"

lemma ends_with_first_expected_or_late_ready :
    let p := start (.anyOf ["ready", "done"]) 10 25
    let w : Watch := ⟨3, 5, [(10, 10)]⟩
    p.watch startingUp (10 * ·) readLimit {} = (p.reached .matched 3, w) ∧ w.taken ≤ 25 ⌈/⌉ 10 + 1 := by
  intro p w
  have hrun : p.watch startingUp (10 * ·) readLimit {} = (p.reached .matched 3, w) := rfl
  have hadmits : p.expected.Admits (startingUp 2) := ⟨_, rfl, "ready", by decide, by decide⟩
  have h := ends_with_first_expected_or_late rfl hrun ⟨2, by decide, .inl hadmits⟩
  refine ⟨hrun, h.2.2.2.2.2.1 (by decide) (fun _ _ hle => Nat.mul_le_mul_left 10 hle) fun i _ => ?_⟩
  have hpause := pause_le p (10 * (2 * i + 1))
  change 10 * (2 * i + 1) + p.pause (10 * (2 * i + 1)) ≤ 10 * (2 * i + 2)
  change _ ≤ 10 at hpause
  omega

end Poller

end HostProbe
