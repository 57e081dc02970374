import HostProbe.Config.Basic
import HostProbe.Machine.Launcher
import HostProbe.Node.Basic
import HostProbe.Shell.Quote

/-! # Machines behind the ssh client

A remote machine is reached by the client program of the system. One call of the client carries one
command line, which the shell of the remote machine reads. The client keeps one exit code for its
own failures. -/

namespace HostProbe

open HostProbe.Text

structure SshTarget where
  host : String
  settings : SshSettings

namespace SshTarget

variable (t : SshTarget)

def login : String := t.settings.username ++ "@" ++ t.host

def describe : String := t.login ++ ":" ++ toString t.settings.port.toNat

def clientArgs : List String :=
  ["-p", toString t.settings.port.toNat, "-o", "BatchMode=yes",
    "-o", "StrictHostKeyChecking=accept-new",
    "-o", "ConnectTimeout=" ++ toString t.settings.connectTimeoutSecs.toNat] ++
    (match t.settings.privateKeyFile with
      | some key => ["-i", key]
      | none => []) ++ [t.login]

def enterDir : Option String → Except Fault String
  | none => .ok ""
  | some dir => do return "cd " ++ (← Shell.quote dir) ++ " && "

def exportOf (name value : String) : Except Fault String := do
  let name ← Shell.envName name
  let value ← Shell.quote value
  return "export " ++ name ++ "=" ++ value ++ "; "

/-- The line that the remote shell reads: into the directory, then the variables in order, then the
command as it is. -/
def remoteLine (r : CommandRequest) : Except Fault String := do
  let dir ← enterDir r.dir
  let exports ← r.env.mapM fun (name, value) => exportOf name value
  return dir ++ String.join exports ++ r.command

def clientCall (line : String) (timeoutMs : Nat) : ProgramCall :=
  { program := "ssh", args := t.clientArgs ++ ["--", line], timeoutMs }

def clientFailure : Int := 255

def delivered (output : CommandOutput) : Except Fault CommandOutput :=
  if output.exitCode = clientFailure then .error (.transport t.describe (trimmed output.stderr))
  else .ok output

variable {σ : Type} (l : Launcher σ)

def run (r : CommandRequest) (s : σ) : Except Fault CommandOutput × σ :=
  match remoteLine r with
  | .error e => (.error e, s)
  | .ok line =>
    let (ended, s) := l.call (t.clientCall line r.timeoutMs) s
    (ended.report t.describe r.command r.timeoutMs >>= t.delivered, s)

def greeting : CommandRequest :=
  ⟨"true", false, none, [], t.settings.connectTimeoutSecs.toNat * 1000⟩

def connect (s : σ) : Except Fault Unit × σ :=
  match l.require t.describe "ssh client not found" "ssh" s with
  | .error e => (.error e, s)
  | .ok () =>
    let (r, s) := t.run l t.greeting s
    (r >>= fun output =>
      if output.exitCode = 0 then .ok ()
      else .error (.transport t.describe
        ("connection check exited with " ++ toString output.exitCode)), s)

def transport : Transport σ where
  describe := t.describe
  isRemote := true
  connect := t.connect l
  run := t.run l
  close s := (.ok (), s)

end SshTarget

def Node.remote {σ : Type} (l : Launcher σ) (t : SshTarget) : Node σ :=
  { name := t.host, transport := t.transport l }

end HostProbe
