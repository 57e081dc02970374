import HostProbe.Decimal.Binary64
import HostProbe.Node.Basic
import HostProbe.Retry.Run

/-! # Reports of a retried operation

The failure of a run as a message, and its steps as log events under the operation's name: a failure
that is retried is a warning, giving up is a failure, and success is worth a word only after an
earlier attempt failed. -/

namespace HostProbe.Retry

open HostProbe.Decimal

def seconds (ms : Nat) : Float :=
  (ms / 1000).toFloat + (ms % 1000 * 1000000).toFloat / 1000000000.0

def Failure.message : Failure Fault → String
  | .exhausted attempts last waited =>
    "gave up after " ++ toString attempts ++ " attempt(s) in " ++ twoPlaces (seconds waited) ++
      "s: " ++ last.message
  | .rejected e => "not retried: " ++ e.message

def Event.log? (operation : String) : Event Fault → Option LogEvent
  | .start .. => none
  | .failed attempt e delay => some ⟨.warning, "attempt failed",
      [("operation", operation), ("attempt", toString attempt), ("error", e.message),
        ("retry_in_ms", toString delay)]⟩
  | .success attempt =>
    if attempt = 1 then none
    else some ⟨.info, "done after retrying",
      [("operation", operation), ("attempt", toString attempt)]⟩
  | .exhausted attempts e => some ⟨.failure, "giving up",
      [("operation", operation), ("attempts", toString attempts), ("error", e.message)]⟩
  | .rejected .. => none

def anonymous : String := "retry"

end HostProbe.Retry

/-! ## Retrying on a node

An operation whose condition is not met is tried again under the policy of its name; any other fault
ends it at once. The steps go to the log. -/

namespace HostProbe.Node

open NodeM

variable {σ α : Type}

def noteAttempt (operation : String) (e : Retry.Event Fault) : NodeM σ Unit := do
  match e.log? operation with
  | some event => log event.level event.message event.fields
  | none => return ()
  match e with
  | .failed _ _ delay => wait delay
  | _ => return ()

def untilMet (operation : String) (policy : RetryPolicy) (attempt : NodeM σ α) : NodeM σ α := do
  let plan := Retry.Plan.steady policy Fault.isConditionNotMet
  match ← plan.run (noteAttempt operation) (outcome attempt) with
  | .ok value => return value
  | .error failure => throw failure.source

end HostProbe.Node
