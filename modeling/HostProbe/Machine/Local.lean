import HostProbe.Machine.Launcher
import HostProbe.Node.Basic
import HostProbe.Shell.Words

/-! # The machine on which we run

A command for a shell is handed to the shell of the machine. Any other is cut into words, the first
of which names the program. -/

namespace HostProbe.LocalMachine

def describe : String := "local"

def failure (message : String) : Fault := .transport describe message

def splitCommand (command : String) : Except Fault (String × List String) :=
  match Shell.words? command with
  | none => .error (failure ("cannot split command \x60" ++ command ++ "\x60"))
  | some [] => .error (failure "empty command")
  | some (program :: args) => .ok (program, args)

def programOf (r : CommandRequest) : Except Fault (String × List String) :=
  if r.shell then .ok ("sh", ["-c", r.command]) else splitCommand r.command

def callOf (r : CommandRequest) : Except Fault ProgramCall := do
  let (program, args) ← programOf r
  return { program, args, dir := r.dir, env := r.env, timeoutMs := r.timeoutMs }

variable {σ : Type} (l : Launcher σ)

def run (r : CommandRequest) (s : σ) : Except Fault CommandOutput × σ :=
  match callOf r with
  | .error e => (.error e, s)
  | .ok c =>
    let (ended, s) := l.call c s
    (ended.report describe r.command r.timeoutMs, s)

def transport : Transport σ where
  describe := describe
  isRemote := false
  connect s := (l.require describe "no POSIX shell found" "sh" s, s)
  run := run l
  close s := (.ok (), s)

end HostProbe.LocalMachine

namespace HostProbe

def Node.local {σ : Type} (l : Launcher σ) : Node σ :=
  { name := "local", transport := LocalMachine.transport l }

end HostProbe
