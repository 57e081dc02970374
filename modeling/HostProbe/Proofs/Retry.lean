import HostProbe.Retry.Run
import Mathlib

/-! Runs of a retried operation, over all outcomes that its calls may have. A run ends with the first
call that succeeds, fails in a way that is not retried, or is the last that the policy allows; and its
observer is told of each attempt in order. The attempts that a failure tells are the calls that were made,
unless the error that ended the run is not retried and came after others. The delays between the attempts
are those of the policy in unbounded numbers, for as long as the sum with the jitter is within 64 bits. -/

namespace HostProbe.Retry

variable {ε α : Type}

structure Record (ε : Type) where
  calls : Nat := 0
  told : List (Event ε) := []

def observe (e : Event ε) : StateM (Record ε) Unit := modify fun r => { r with told := r.told ++ [e] }

def ending (outcome : Nat → Except ε α) : StateM (Record ε) (Except ε α) :=
  modifyGet fun r => (outcome (r.calls + 1), { r with calls := r.calls + 1 })

namespace Plan

variable (plan : Plan ε) (outcome : Nat → Except ε α)

def EndsAt (k : Nat) : Prop :=
  (∃ value, outcome k = .ok value) ∨ (∃ e, outcome k = .error e ∧ plan.retryable e = false) ∨
    k = max 1 plan.policy.maxAttempts.toNat

def delayAfter (k : Nat) : Nat := plan.policy.delay k (plan.sample k)

def retold (k : Nat) : List (Event ε) :=
  .start k (max 1 plan.policy.maxAttempts.toNat) :: match outcome k with
    | .ok _ => []
    | .error e => [.failed k e (plan.delayAfter k)]

def farewell (k : Nat) : Event ε :=
  match outcome k with
  | .ok _ => .success k
  | .error e => if plan.retryable e then .exhausted k e else .rejected k e

def result (k waited : Nat) : Except (Failure ε) α :=
  match outcome k with
  | .ok value => .ok value
  | .error e => .error (if plan.retryable e then .exhausted k e waited else .rejected e)

abbrev before (first k : Nat) : List Nat := List.range' first (k - first)

def waitedBefore (first k : Nat) : Nat := ((before first k).map plan.delayAfter).sum

def story (first k : Nat) : List (Event ε) :=
  (before first k).flatMap (plan.retold outcome) ++
    [.start k (max 1 plan.policy.maxAttempts.toNat), plan.farewell outcome k]

variable {plan outcome}

lemma before_of_lt {first k : Nat} (h : first < k) : before first k = first :: before (first + 1) k := by
  obtain ⟨d, rfl⟩ := Nat.exists_eq_add_of_lt h
  rw [before, before, Nat.add_sub_add_right, Nat.add_assoc, Nat.add_sub_cancel_left, List.range'_succ,
    Nat.add_sub_cancel_left]

lemma story_self (k : Nat) : plan.story outcome k k =
    [.start k (max 1 plan.policy.maxAttempts.toNat), plan.farewell outcome k] := by
  simp [story, before]

lemma story_of_lt {first k : Nat} (h : first < k) :
    plan.story outcome first k = plan.retold outcome first ++ plan.story outcome (first + 1) k := by
  rw [story, before_of_lt h, List.flatMap_cons, List.append_assoc, story]

lemma waitedBefore_self (k : Nat) : plan.waitedBefore k k = 0 := by
  simp [waitedBefore, before]

lemma waitedBefore_of_lt {first k : Nat} (h : first < k) :
    plan.waitedBefore first k = plan.delayAfter first + plan.waitedBefore (first + 1) k := by
  rw [waitedBefore, before_of_lt h, List.map_cons, List.sum_cons, waitedBefore]

lemma observe_bind {β : Type} (e : Event ε) (f : Unit → StateM (Record ε) β) (r : Record ε) :
    (observe e >>= f) r = f () { r with told := r.told ++ [e] } := rfl

lemma ending_bind {β : Type} (f : Except ε α → StateM (Record ε) β) (r : Record ε) :
    (ending outcome >>= f) r = f (outcome (r.calls + 1)) { r with calls := r.calls + 1 } := rfl

section Step

variable {left k waited : Nat} {told : List (Event ε)}

lemma runFrom_of_ok {value : α} (h : outcome (k + 1) = .ok value) :
    plan.runFrom observe (ending outcome) left (k + 1) waited ⟨k, told⟩ =
      (plan.result outcome (k + 1) waited, ⟨k + 1, told ++ plan.story outcome (k + 1) (k + 1)⟩) := by
  rw [runFrom, observe_bind, ending_bind, result, story_self, farewell]
  simp only [h]
  exact congrArg (fun told => (Except.ok value, Record.mk (k + 1) told)) (List.append_assoc _ [_] [_])

lemma runFrom_of_rejected {e : ε} (h : outcome (k + 1) = .error e) (he : plan.retryable e = false) :
    plan.runFrom observe (ending outcome) left (k + 1) waited ⟨k, told⟩ =
      (plan.result outcome (k + 1) waited, ⟨k + 1, told ++ plan.story outcome (k + 1) (k + 1)⟩) := by
  rw [runFrom, observe_bind, ending_bind, result, story_self, farewell]
  simp only [h, he, Bool.false_eq_true, if_false]
  exact congrArg (fun told => (Except.error _, Record.mk (k + 1) told)) (List.append_assoc _ [_] [_])

lemma runFrom_of_exhausted {e : ε} (h : outcome (k + 1) = .error e) (he : plan.retryable e = true) :
    plan.runFrom observe (ending outcome) 0 (k + 1) waited ⟨k, told⟩ =
      (plan.result outcome (k + 1) waited, ⟨k + 1, told ++ plan.story outcome (k + 1) (k + 1)⟩) := by
  rw [runFrom, observe_bind, ending_bind, result, story_self, farewell]
  simp only [h, he, if_true]
  exact congrArg (fun told => (Except.error _, Record.mk (k + 1) told)) (List.append_assoc _ [_] [_])

lemma runFrom_of_retried {e : ε} (h : outcome (k + 1) = .error e) (he : plan.retryable e = true) :
    plan.runFrom observe (ending outcome) (left + 1) (k + 1) waited ⟨k, told⟩ =
      plan.runFrom observe (ending outcome) left (k + 2) (waited + plan.delayAfter (k + 1))
        ⟨k + 1, told ++ plan.retold outcome (k + 1)⟩ := by
  rw [runFrom, observe_bind, ending_bind, retold]
  simp only [h, he, if_true]
  exact congrArg (fun told => plan.runFrom observe (ending outcome) left _ _ ⟨_, told⟩)
    (List.append_assoc _ [_] [_])

end Step

lemma isLeast_of_endsAt {k : Nat} (h : plan.EndsAt outcome k) :
    IsLeast {i | k ≤ i ∧ plan.EndsAt outcome i} k := ⟨⟨le_rfl, h⟩, fun _ hi => hi.1⟩

lemma isLeast_of_not_endsAt {k n : Nat} (h : ¬ plan.EndsAt outcome k)
    (hn : IsLeast {i | k + 1 ≤ i ∧ plan.EndsAt outcome i} n) :
    IsLeast {i | k ≤ i ∧ plan.EndsAt outcome i} n := by
  refine ⟨⟨Nat.le_of_succ_le hn.1.1, hn.1.2⟩, fun i hi => hn.2 ⟨?_, hi.2⟩⟩
  rcases Nat.eq_or_lt_of_le hi.1 with rfl | hlt
  · exact absurd hi.2 h
  · exact hlt

lemma exists_runFrom_eq (plan : Plan ε) (outcome : Nat → Except ε α) (k waited : Nat)
    (told : List (Event ε)) {left : Nat} (hleft : k + 1 + left = max 1 plan.policy.maxAttempts.toNat) :
    ∃ n, IsLeast {i | k + 1 ≤ i ∧ plan.EndsAt outcome i} n ∧
      plan.runFrom observe (ending outcome) left (k + 1) waited ⟨k, told⟩ =
        (plan.result outcome n (waited + plan.waitedBefore (k + 1) n),
          ⟨n, told ++ plan.story outcome (k + 1) n⟩) := by
  -- On the attempts that are left after this one; with none left this one ends the run.
  induction left generalizing k waited told with
  | zero =>
    refine ⟨k + 1, isLeast_of_endsAt (.inr (.inr hleft)), ?_⟩
    rw [waitedBefore_self]
    cases houtcome : outcome (k + 1) with
    | ok value => exact runFrom_of_ok houtcome
    | error e =>
      cases he : plan.retryable e with
      | true => exact runFrom_of_exhausted houtcome he
      | false => exact runFrom_of_rejected houtcome he
  | succ left ih =>
    cases houtcome : outcome (k + 1) with
    | ok value =>
      refine ⟨k + 1, isLeast_of_endsAt (.inl ⟨value, houtcome⟩), ?_⟩
      rw [waitedBefore_self]
      exact runFrom_of_ok houtcome
    | error e =>
      cases he : plan.retryable e with
      | false =>
        refine ⟨k + 1, isLeast_of_endsAt (.inr (.inl ⟨e, houtcome, he⟩)), ?_⟩
        rw [waitedBefore_self]
        exact runFrom_of_rejected houtcome he
      | true =>
        have hgoes : ¬ plan.EndsAt outcome (k + 1) := by
          rintro (⟨value, hvalue⟩ | ⟨e', he', hrejected⟩ | hlimit)
          · cases houtcome.symm.trans hvalue
          · cases houtcome.symm.trans he'
            cases he.symm.trans hrejected
          · omega
        obtain ⟨n, hn, hrun⟩ := ih (k + 1) (waited + plan.delayAfter (k + 1))
          (told ++ plan.retold outcome (k + 1)) (by omega)
        refine ⟨n, isLeast_of_not_endsAt hgoes hn, ?_⟩
        rw [runFrom_of_retried houtcome he, hrun, story_of_lt hn.1.1, waitedBefore_of_lt hn.1.1,
          List.append_assoc, Nat.add_assoc]

lemma exists_run_eq (plan : Plan ε) (outcome : Nat → Except ε α) :
    ∃ n, IsLeast {i | 1 ≤ i ∧ plan.EndsAt outcome i} n ∧
      plan.run observe (ending outcome) {} =
        (plan.result outcome n (plan.waitedBefore 1 n), ⟨n, plan.story outcome 1 n⟩) := by
  have hleft : 0 + 1 + (plan.policy.attemptLimit - 1) = max 1 plan.policy.maxAttempts.toNat := by
    rw [RetryPolicy.attemptLimit]
    omega
  obtain ⟨n, hn, hrun⟩ := plan.exists_runFrom_eq outcome 0 0 [] hleft
  refine ⟨n, hn, ?_⟩
  rw [Nat.zero_add, Nat.zero_add, List.nil_append] at hrun
  exact hrun

lemma source_result (plan : Plan ε) (k waited : Nat) :
    (plan.result outcome k waited).mapError Failure.source = outcome k := by
  rw [result]
  cases outcome k with
  | ok value => rfl
  | error e =>
    cases he : plan.retryable e with
    | true => simp [he, Except.mapError, Failure.source]
    | false => simp [he, Except.mapError, Failure.source]

lemma result_eq_error_iff {k waited : Nat} {f : Failure ε} :
    plan.result outcome k waited = .error f ↔ ∃ e, outcome k = .error e ∧
      (if plan.retryable e then .exhausted k e waited else .rejected e) = f := by
  rw [result]
  cases outcome k with
  | ok value => simp
  | error e => simp

lemma retried_of_not_endsAt {k : Nat} (h : ¬ plan.EndsAt outcome k) :
    ∃ e, outcome k = .error e ∧ plan.retryable e = true := by
  cases houtcome : outcome k with
  | ok value => exact absurd (.inl ⟨value, houtcome⟩) h
  | error e =>
    refine ⟨e, rfl, Bool.eq_true_of_not_eq_false fun he => h ?_⟩
    exact .inr (.inl ⟨e, houtcome, he⟩)

lemma retried_of_isLeast {k n : Nat} (hn : IsLeast {i | 1 ≤ i ∧ plan.EndsAt outcome i} n) (hfirst : 1 ≤ k)
    (hk : k < n) : ∃ e, outcome k = .error e ∧ plan.retryable e = true :=
  retried_of_not_endsAt fun hends => absurd (hn.2 ⟨hfirst, hends⟩) (not_le.mpr hk)

/-- A run that fails ends with the error of its last call, and the errors of the earlier ones were
retried. The attempts that are told are the calls exactly if that error would be retried too or is the
first; otherwise one is told. -/
theorem attempts_eq_calls_iff (plan : Plan ε) (outcome : Nat → Except ε α) {f : Failure ε} {r : Record ε}
    (h : plan.run observe (ending outcome) {} = (.error f, r)) :
    outcome r.calls = .error f.source ∧
      (∀ k, 1 ≤ k → k < r.calls → ∃ e, outcome k = .error e ∧ plan.retryable e = true) ∧
      f.isExhausted = plan.retryable f.source ∧
      (f.attempts = r.calls ↔ plan.retryable f.source = true ∨ r.calls = 1) ∧
      (plan.retryable f.source = false → f.attempts = 1) := by
  obtain ⟨n, hn, hrun⟩ := plan.exists_run_eq outcome
  obtain ⟨hresult, rfl⟩ := Prod.mk.inj (hrun.symm.trans h)
  obtain ⟨e, houtcome, hf⟩ := result_eq_error_iff.mp hresult
  have hearlier : ∀ k, 1 ≤ k → k < n → ∃ e, outcome k = .error e ∧ plan.retryable e = true :=
    fun k => retried_of_isLeast hn
  cases he : plan.retryable e with
  | true =>
    obtain rfl : .exhausted n e _ = f := by rwa [if_pos he] at hf
    refine ⟨houtcome, hearlier, he.symm, iff_of_true rfl (.inl he), fun hrejected => ?_⟩
    cases he.symm.trans hrejected
  | false =>
    obtain rfl : .rejected e = f := by rwa [if_neg (by simp [he])] at hf
    refine ⟨houtcome, hearlier, he.symm, ?_, fun _ => rfl⟩
    simp [Failure.attempts, Failure.source, he, eq_comm]

theorem attempts_eq_calls_iff_exhausted :
    let plan := Plan.steady (.fixed 3 5) fun _ : Nat => true
    let run := plan.run observe (ending fun k => (.error k : Except Nat Unit)) {}
    run.1 = .error (.exhausted 3 3 10) ∧ (Failure.exhausted 3 3 10).attempts = run.2.calls := by
  intro plan run
  have hrun : run.1 = .error (.exhausted 3 3 10) := by decide +kernel
  exact ⟨hrun, (attempts_eq_calls_iff plan _ (Prod.ext hrun rfl)).2.2.2.1.mpr (.inl rfl)⟩

/-- The second call fails in a way that is not retried, after the error of the first was retried. -/
theorem late_rejection_tells_one_attempt :
    let plan := Plan.steady (.fixed 5 0) fun e : Nat => e == 1
    let run := plan.run observe (ending fun k => (.error k : Except Nat Unit)) {}
    run.1 = .error (.rejected 2) ∧ run.2.calls = 2 ∧ (Failure.rejected 2).attempts = 1 := by
  decide +kernel

end Plan

lemma retry_apply (retryable : ε → Bool) (attempts : UInt32) (delay : UInt64)
    (op : StateM (Record ε) (Except ε α)) (r : Record ε) :
    retry observe retryable attempts delay op r =
      (((Plan.steady (.fixed attempts delay) retryable).run observe op r).1.mapError Failure.source,
        ((Plan.steady (.fixed attempts delay) retryable).run observe op r).2) := by
  have hbind (a : StateM (Record ε) (Except (Failure ε) α))
      (f : Except (Failure ε) α → StateM (Record ε) (Except ε α)) : (a >>= f) r = f (a r).1 (a r).2 := rfl
  rw [retry, hbind]
  cases ((Plan.steady (.fixed attempts delay) retryable).run observe op r).1 <;> rfl

/-- A run calls its operation up to the first attempt that succeeds, fails in a way that is not
retried, or is the last; it gives what that attempt gave, and its observer is told of the attempts in
order. A run with a fixed delay gives the outcome of that attempt as it is. -/
theorem run_ends_with_first_ending (outcome : Nat → Except ε α) :
    (∀ plan : Plan ε, ∃ n, IsLeast {k | 1 ≤ k ∧ plan.EndsAt outcome k} n ∧
      plan.run observe (ending outcome) {} =
        (plan.result outcome n (plan.waitedBefore 1 n), ⟨n, plan.story outcome 1 n⟩)) ∧
    ∀ retryable attempts delay, ∃ n,
      let plan := Plan.steady (.fixed attempts delay) retryable
      IsLeast {k | 1 ≤ k ∧ plan.EndsAt outcome k} n ∧
        retry observe retryable attempts delay (ending outcome) {} =
          (outcome n, ⟨n, plan.story outcome 1 n⟩) := by
  refine ⟨fun plan => plan.exists_run_eq outcome, fun retryable attempts delay => ?_⟩
  obtain ⟨n, hn, hrun⟩ := (Plan.steady (.fixed attempts delay) retryable).exists_run_eq outcome
  refine ⟨n, hn, ?_⟩
  rw [retry_apply, hrun, Plan.source_result]

theorem run_ends_with_first_ending_third :
    let plan := Plan.steady (.fixed 5 7) fun _ : Nat => true
    let outcome : Nat → Except Nat String := fun k => if k = 3 then .ok "up" else .error k
    let story := [.start 1 5, .failed 1 1 7, .start 2 5, .failed 2 2 7, .start 3 5, .success 3]
    IsLeast {k | 1 ≤ k ∧ plan.EndsAt outcome k} 3 ∧
      plan.run observe (ending outcome) {} = (.ok "up", ⟨3, story⟩) ∧
      retry observe (fun _ => true) 5 7 (ending outcome) {} = (.ok "up", ⟨3, story⟩) := by
  intro plan outcome story
  have hthird : IsLeast {k | 1 ≤ k ∧ plan.EndsAt outcome k} 3 := by
    refine ⟨⟨by decide, .inl ⟨"up", rfl⟩⟩, fun k ⟨hfirst, hends⟩ => not_lt.mp fun hk => ?_⟩
    have houtcome : outcome k = .error k := if_neg (by omega)
    rcases hends with ⟨value, hvalue⟩ | ⟨e, -, hrejected⟩ | hlimit
    · cases houtcome.symm.trans hvalue
    · cases hrejected
    · have hfive : max 1 plan.policy.maxAttempts.toNat = 5 := by decide
      omega
  obtain ⟨hplan, hretry⟩ := run_ends_with_first_ending outcome
  obtain ⟨n, hn, hrun⟩ := hplan plan
  obtain ⟨m, hm, hsame⟩ := hretry (fun _ => true) 5 7
  obtain rfl : n = 3 := hn.unique hthird
  obtain rfl : m = 3 := hm.unique hthird
  exact ⟨hthird, hrun, hsame⟩

end HostProbe.Retry

namespace HostProbe.RetryPolicy

def factor? (p : RetryPolicy) (attempt : Nat) : Option Nat :=
  match p.strategy with
  | .immediate => some 0
  | .fixed => some 1
  | .exponential => none
  | .linear => some (max 1 attempt)

section Delay

variable {p : RetryPolicy} {attempt later factor sample : Nat}

lemma toNat_le_delayLimit (u : UInt64) : u.toNat ≤ delayLimit := Nat.le_sub_one_of_lt u.toNat_lt_size

lemma baseDelay_le_delayLimit (p : RetryPolicy) (attempt : Nat) : p.baseDelay attempt ≤ delayLimit := by
  unfold baseDelay
  cases p.strategy with
  | immediate => exact Nat.zero_le _
  | fixed => exact toNat_le_delayLimit _
  | exponential => exact toNat_le_delayLimit _
  | linear => exact Nat.min_le_right _ _

lemma cappedDelay_le_maxDelay (p : RetryPolicy) (attempt : Nat) : p.cappedDelay attempt ≤ p.maxDelay.toNat :=
  Nat.min_le_right _ _

lemma cappedDelay_of_factor (h : p.factor? attempt = some factor) :
    p.cappedDelay attempt = min (p.initialDelay.toNat * factor) p.maxDelay.toNat := by
  unfold factor? at h
  unfold cappedDelay baseDelay
  cases hstrategy : p.strategy with
  | immediate =>
    simp only [hstrategy, Option.some.injEq] at h ⊢
    rw [← h, Nat.mul_zero]
  | fixed =>
    simp only [hstrategy, Option.some.injEq] at h ⊢
    rw [← h, Nat.mul_one]
  | exponential => simp [hstrategy] at h
  | linear =>
    simp only [hstrategy, Option.some.injEq] at h ⊢
    have hindex : attempt - 1 + 1 = max 1 attempt := by omega
    -- The cap is within the limit, so it does not matter whether the product stops there.
    rw [hindex, h, min_assoc, min_eq_right (toNat_le_delayLimit p.maxDelay)]

lemma exists_factor_ge (h : p.factor? attempt = some factor) (hle : attempt ≤ later) :
    ∃ factor', p.factor? later = some factor' ∧ factor ≤ factor' := by
  unfold factor? at h ⊢
  cases hstrategy : p.strategy with
  | immediate => simp_all
  | fixed => simp_all
  | exponential => simp [hstrategy] at h
  | linear =>
    simp only [hstrategy, Option.some.injEq] at h ⊢
    exact ⟨max 1 later, rfl, by omega⟩

lemma cappedDelay_mono (h : p.factor? attempt = some factor) (hle : attempt ≤ later) :
    p.cappedDelay attempt ≤ p.cappedDelay later := by
  obtain ⟨factor', h', hfactor⟩ := exists_factor_ge h hle
  rw [cappedDelay_of_factor h, cappedDelay_of_factor h']
  exact min_le_min_right _ (Nat.mul_le_mul_left _ hfactor)

lemma delay_of_le_limit (h : sample ≤ p.cappedDelay attempt / 4)
    (hlimit : p.cappedDelay attempt + sample ≤ delayLimit) :
    p.delay attempt sample = p.cappedDelay attempt + sample := by
  have hlt : p.cappedDelay attempt + sample < UInt64.size := Nat.lt_of_le_sub_one (by decide) hlimit
  rw [delay, min_eq_left h, Nat.mod_eq_of_lt hlt]

lemma delay_of_limit_lt (h : sample ≤ p.cappedDelay attempt / 4)
    (hlimit : delayLimit < p.cappedDelay attempt + sample) :
    p.delay attempt sample + UInt64.size = p.cappedDelay attempt + sample := by
  have hcapped : p.cappedDelay attempt ≤ delayLimit :=
    (p.cappedDelay_le_maxDelay attempt).trans (toNat_le_delayLimit _)
  rw [delay, min_eq_left h]
  unfold delayLimit UInt64.size at *
  omega

lemma delay_without_jitter (p : RetryPolicy) (attempt : Nat) : p.delay attempt 0 = p.cappedDelay attempt :=
  delay_of_le_limit (Nat.zero_le _) ((p.cappedDelay_le_maxDelay attempt).trans (toNat_le_delayLimit _))

end Delay

/-- Without jitter a delay is within its maximum and, unless it is exponential, the initial delay times a
factor that does not fall from one attempt to the next. With jitter it is the capped delay and a share of
it exactly if their sum is within 64 bits; else it is what is left of the sum beyond them, and a delay of
more than four fifths of the limit has a share for which this happens. -/
theorem delay_within_share_iff (p : RetryPolicy) (attempt : UInt32) :
    let k := attempt.toNat
    let capped := p.cappedDelay k
    (k - 1 + 1 ≤ delayLimit ∧ p.baseDelay k ≤ delayLimit) ∧
    (p.delay k 0 = capped ∧ capped ≤ p.maxDelay.toNat) ∧
    (∀ factor, p.factor? k = some factor →
      capped = min (p.initialDelay.toNat * factor) p.maxDelay.toNat ∧
      ∀ later : UInt32, attempt ≤ later → p.delay k 0 ≤ p.delay later.toNat 0) ∧
    (∀ sample ≤ capped / 4,
      (capped + sample ≤ delayLimit → p.delay k sample = capped + sample) ∧
      (delayLimit < capped + sample → p.delay k sample + UInt64.size = capped + sample) ∧
      (capped ≤ p.delay k sample ∧ p.delay k sample ≤ capped + capped / 4 ↔
        capped + sample ≤ delayLimit)) ∧
    ((∃ sample ≤ capped / 4, delayLimit < capped + sample) ↔ delayLimit / 5 * 4 < capped) := by
  intro k capped
  have hattempt : k < UInt32.size := attempt.toNat_lt_size
  have hcapped : capped ≤ delayLimit := (p.cappedDelay_le_maxDelay k).trans (toNat_le_delayLimit _)
  refine ⟨⟨?_, p.baseDelay_le_delayLimit k⟩, ⟨p.delay_without_jitter k, p.cappedDelay_le_maxDelay k⟩,
    fun factor hfactor => ⟨cappedDelay_of_factor hfactor, fun later hle => ?_⟩, fun sample hsample => ?_, ?_⟩
  · unfold delayLimit UInt64.size UInt32.size at *
    omega
  · rw [delay_without_jitter, delay_without_jitter]
    exact cappedDelay_mono hfactor (UInt32.le_iff_toNat_le.mp hle)
  · refine ⟨delay_of_le_limit hsample, delay_of_limit_lt hsample, fun hshare => ?_, fun hlimit => ?_⟩
    · by_contra hover
      have hwraps := delay_of_limit_lt hsample (not_le.mp hover)
      unfold delayLimit UInt64.size at *
      omega
    · rw [delay_of_le_limit hsample hlimit]
      omega
  · constructor
    · rintro ⟨sample, hsample, hover⟩
      unfold delayLimit UInt64.size at *
      omega
    · intro hlarge
      refine ⟨capped / 4, le_rfl, ?_⟩
      unfold delayLimit UInt64.size at *
      omega

theorem delay_within_share_iff_linear :
    let p : RetryPolicy := ⟨3, .linear, 1.0, 1000, 30000⟩
    p.cappedDelay 2 = 2000 ∧ p.delay 2 0 ≤ p.delay 4294967295 0 ∧ p.delay 2 500 = 2500 := by
  intro p
  obtain ⟨-, -, hfactor, hshare, -⟩ := p.delay_within_share_iff 2
  obtain ⟨-, hmono⟩ := hfactor 2 (by decide)
  have hcapped : p.cappedDelay 2 = 2000 := by decide +kernel
  have hlast : p.delay 2 0 ≤ p.delay 4294967295 0 := hmono 4294967295 (by decide)
  have hsample : p.delay 2 500 = p.cappedDelay 2 + 500 :=
    (hshare 500 (by decide +kernel)).1 (by decide +kernel)
  exact ⟨hcapped, hlast, hsample.trans (by rw [hcapped])⟩

/-- The greatest delay there is, with the greatest share of it, is shorter than without. -/
theorem jittered_delay_falls_below_cap :
    let p : RetryPolicy := ⟨3, .fixed, 1.0, 18446744073709551615, 18446744073709551615⟩
    let quarter := p.cappedDelay 1 / 4
    delayLimit < p.cappedDelay 1 + quarter ∧ p.delay 1 quarter < p.cappedDelay 1 := by
  decide +kernel

end HostProbe.RetryPolicy
