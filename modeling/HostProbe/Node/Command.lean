import HostProbe.Fault
import HostProbe.Text.Blank

/-! # Commands and their results

What is asked of a machine, how a caller wants it done, and what came back. -/

namespace HostProbe

open HostProbe.Text

structure CommandRequest where
  command : String
  shell : Bool
  dir : Option String
  env : List (String × String)
  timeoutMs : Nat
  deriving DecidableEq, Repr

structure CommandOutput where
  exitCode : Int
  stdout : String
  stderr : String
  deriving DecidableEq, Repr, Inhabited

structure ExecOptions where
  asRoot : Bool := false
  shell : Bool := false
  forceRun : Bool := false
  noInfoLog : Bool := false
  noErrorLog : Bool := false
  dir : Option String := none
  env : List (String × String) := []
  timeoutMs : Option Nat := none
  expected : Option Int := none
  failureMessage : String := ""
  deriving Repr

def ExecOptions.quiet (opts : ExecOptions) : ExecOptions :=
  { opts with noInfoLog := true, noErrorLog := true }

def ExecOptions.successOr (opts : ExecOptions) (message : String) : ExecOptions :=
  { opts with expected := some 0, failureMessage := message }

structure ExecutionResult where
  command : String
  exitCode : Int
  stdout : String
  stderr : String
  deriving DecidableEq, Repr, Inhabited

namespace ExecutionResult

def isSuccess (r : ExecutionResult) : Bool := r.exitCode == 0

def requireCode (r : ExecutionResult) (expected : Int) (message : String) :
    Except Fault ExecutionResult :=
  if r.exitCode = expected then .ok r
  else .error (.execution r.command r.exitCode
    (if message.isEmpty then "expected exit code " ++ toString expected else message)
    (trimmed r.stderr))

def requireSuccess (r : ExecutionResult) (message : String) : Except Fault ExecutionResult :=
  r.requireCode 0 message

def lines (r : ExecutionResult) : List String := linesOf r.stdout

end ExecutionResult

end HostProbe
