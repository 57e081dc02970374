import HostProbe.Retry.Policy

/-! # Bounded retry

An operation is repeated until it succeeds, until its error is one that is not retried, or until the
attempts of the policy are used up. Each step is announced to an observer, in order: the start of
every attempt, every failure that is followed by another attempt, and how the run ended. -/

namespace HostProbe.Retry

inductive Event (ε : Type) where
  | start (attempt limit : Nat)
  | failed (attempt : Nat) (error : ε) (delay : Nat)
  | success (attempt : Nat)
  | exhausted (attempts : Nat) (error : ε)
  | rejected (attempt : Nat) (error : ε)
  deriving DecidableEq, Repr

inductive Failure (ε : Type) where
  | exhausted (attempts : Nat) (last : ε) (waited : Nat)
  | rejected (error : ε)
  deriving DecidableEq, Repr

namespace Failure

variable {ε : Type}

def attempts : Failure ε → Nat
  | .exhausted n _ _ => n
  | .rejected _ => 1

def isExhausted : Failure ε → Bool
  | .exhausted .. => true
  | .rejected _ => false

def isRejected : Failure ε → Bool
  | .exhausted .. => false
  | .rejected _ => true

def source : Failure ε → ε
  | .exhausted _ e _ => e
  | .rejected e => e

end Failure

structure Plan (ε : Type) where
  policy : RetryPolicy
  retryable : ε → Bool
  sample : Nat → Nat

def Plan.steady {ε : Type} (policy : RetryPolicy) (retryable : ε → Bool) : Plan ε :=
  ⟨policy, retryable, fun _ => 0⟩

variable {ε α : Type} {m : Type → Type u} [Monad m]

/-- The attempts from number `attempt` on, with `left` more allowed after it and `waited`
milliseconds spent between the earlier ones. -/
def Plan.runFrom (plan : Plan ε) (notify : Event ε → m Unit) (op : m (Except ε α)) :
    (left attempt waited : Nat) → m (Except (Failure ε) α)
  | left, attempt, waited => do
    notify (.start attempt plan.policy.attemptLimit)
    match ← op with
    | .ok value =>
      notify (.success attempt)
      return .ok value
    | .error e =>
      if plan.retryable e then
        match left with
        | 0 =>
          notify (.exhausted attempt e)
          return .error (.exhausted attempt e waited)
        | left + 1 =>
          let delay := plan.policy.delay attempt (plan.sample attempt)
          notify (.failed attempt e delay)
          plan.runFrom notify op left (attempt + 1) (waited + delay)
      else
        notify (.rejected attempt e)
        return .error (.rejected e)

def Plan.run (plan : Plan ε) (notify : Event ε → m Unit) (op : m (Except ε α)) :
    m (Except (Failure ε) α) :=
  plan.runFrom notify op (plan.policy.attemptLimit - 1) 1 0

/-- Runs an operation with the same delay after each failed attempt; the error that ends the run is
given back as it was. -/
def retry (notify : Event ε → m Unit) (retryable : ε → Bool) (attempts : UInt32) (delay : UInt64)
    (op : m (Except ε α)) : m (Except ε α) := do
  match ← (Plan.steady (.fixed attempts delay) retryable).run notify op with
  | .ok value => return .ok value
  | .error failure => return .error failure.source

end HostProbe.Retry
