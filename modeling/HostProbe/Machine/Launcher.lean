import HostProbe.Fault
import HostProbe.Node.Command
import HostProbe.Node.Environment

/-! # Starting programs

A launcher starts the programs of the machine on which we run. A program that was started either
ends in time or is stopped; one that is not there, or is called in a way that no program can be
called, is not started. -/

namespace HostProbe

structure ProgramCall where
  program : String
  args : List String
  dir : Option String := none
  env : Environment := []
  timeoutMs : Nat
  deriving DecidableEq, Repr

inductive ProgramEnd where
  | finished (output : CommandOutput)
  | notStarted (reason : String)
  | tooLong
  deriving DecidableEq, Repr

structure Launcher (σ : Type) where
  finds : String → σ → Bool
  start : ProgramCall → σ → ProgramEnd × σ

namespace ProgramCall

def texts (c : ProgramCall) : List String :=
  c.program :: c.args ++ c.dir.toList ++ c.env.flatMap fun (name, value) => [name, value]

def isPassable (c : ProgramCall) : Bool := c.texts.all fun t => !t.toList.contains '\x00'

end ProgramCall

namespace ProgramEnd

def absent : ProgramEnd := .notStarted "No such file or directory (os error 2)"

def holdsNul : ProgramEnd := .notStarted "nul byte found in provided data"

def report (target command : String) (timeoutMs : Nat) : ProgramEnd → Except Fault CommandOutput
  | .finished output => .ok output
  | .notStarted reason =>
    .error (.transport target ("failed to start \x60" ++ command ++ "\x60: " ++ reason))
  | .tooLong => .error (.transport target
      ("command timed out after " ++ toString (timeoutMs / 1000) ++ "s: " ++ command))

end ProgramEnd

namespace Launcher

variable {σ : Type}

def call (l : Launcher σ) (c : ProgramCall) (s : σ) : ProgramEnd × σ :=
  if c.isPassable then l.start c s else (.holdsNul, s)

def require (l : Launcher σ) (target what program : String) (s : σ) : Except Fault Unit :=
  if l.finds program s then .ok ()
  else .error (.transport target (what ++ ": cannot find binary path"))

end Launcher

end HostProbe
