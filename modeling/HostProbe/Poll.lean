import HostProbe.Log
import HostProbe.Text.Blank
import HostProbe.Text.Quoted

/-! # Polling

A value is read until it is one of the expected ones or the time is over. A poller is fed one
reading at a time and is sticky once it has matched or timed out; a failed reading is one that does
not match. Times are milliseconds since the poll began. -/

namespace HostProbe

open HostProbe.Text

inductive Expected where
  | value (text : String)
  | anyOf (texts : List String)
  deriving DecidableEq, Repr

namespace Expected

def accepts (e : Expected) (observed : String) : Bool :=
  match e with
  | .value text => trimmed text == trimmed observed
  | .anyOf texts => texts.any fun text => trimmed text == trimmed observed

def text : Expected → String
  | .value text => quoted text
  | .anyOf texts => "one of " ++ quotedList texts

end Expected

inductive PollState where
  | polling
  | matched
  | timedOut
  deriving DecidableEq, Repr

def PollState.text : PollState → String
  | .polling => "polling"
  | .matched => "matched"
  | .timedOut => "timed-out"

abbrev Reading := Except String String

structure Poller where
  expected : Expected
  interval : Nat
  timeout : Nat
  state : PollState
  reads : Nat
  deriving Repr

namespace Poller

def start (expected : Expected) (interval timeout : Nat) : Poller :=
  ⟨expected, interval, timeout, .polling, 0⟩

def accepts (p : Poller) : Reading → Bool
  | .ok text => p.expected.accepts text
  | .error _ => false

def observe (p : Poller) (reading : Reading) (elapsed : Nat) : Poller :=
  match p.state with
  | .polling =>
    let state :=
      if p.accepts reading then .matched
      else if p.timeout ≤ elapsed then .timedOut
      else .polling
    { p with state, reads := p.reads + 1 }
  | _ => p

def pause (p : Poller) (elapsed : Nat) : Nat := min p.interval (p.timeout - elapsed)

def timeoutEvent (p : Poller) : LogEvent :=
  ⟨.warning, "poll timed out", [("expected", p.expected.text), ("reads", toString p.reads),
    ("timeout_ms", toString p.timeout)]⟩

def readLimit : Nat := UInt32.size - 1

variable {m : Type → Type u} [Monad m]

def follow (read : m Reading) (elapsed : m Nat) (sleep : Nat → m Unit) : Nat → Poller → m Poller
  | 0, p => return p
  | left + 1, p => do
    let reading ← read
    let p := p.observe reading (← elapsed)
    match p.state with
    | .polling =>
      sleep (p.pause (← elapsed))
      follow read elapsed sleep left p
    | _ => return p

end Poller

end HostProbe
