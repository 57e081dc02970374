import HostProbe.Machine.Launcher
import HostProbe.Machine.Scripted

/-! # Stand-ins for programs

A machine on which only some programs are found. They do nothing but answer by rules on their
command lines, each answer after a while, and every start is remembered. -/

namespace HostProbe

structure DelayedOutput where
  output : CommandOutput := ⟨0, "", ""⟩
  delayMs : Nat := 0
  deriving Repr

structure StandIns where
  programs : List String
  carrier : String
  rules : List (ScriptRule DelayedOutput) := []
  started : List ProgramCall := []
  deriving Repr

namespace StandIns

def lineOf (s : StandIns) (c : ProgramCall) : String :=
  if c.program = s.carrier then c.args.getLast?.getD ""
  else String.intercalate " " (c.program :: c.args)

def keptCode (output : CommandOutput) : CommandOutput :=
  { output with exitCode := output.exitCode % 256 }

def start (dirExists : String → Bool) (c : ProgramCall) (s : StandIns) : ProgramEnd × StandIns :=
  if !(s.programs.contains c.program && c.dir.all dirExists) then (.absent, s)
  else
    let (a, rules) := ScriptRule.answer {} (s.lineOf c) s.rules
    (if c.timeoutMs ≤ a.delayMs then .tooLong else .finished (keptCode a.output),
      { s with rules, started := s.started ++ [c] })

def launcher (dirExists : String → Bool) : Launcher StandIns where
  finds program s := s.programs.contains program
  start := start dirExists

end StandIns

end HostProbe
