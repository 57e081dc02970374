import HostProbe.Node.Basic
import HostProbe.Os.Release
import HostProbe.Shell.Quote

/-! # Running commands on a node

A command is sent after the node is connected. With sudo it is wrapped, in a shell of its own if a
shell reads it. Results can be stored; a stored one is the answer to a command that agrees with it
in everything that reaches the transport. -/

namespace HostProbe.Node

open HostProbe.Text NodeM

variable {σ : Type} (n : Node σ)

def supportsSudo : NodeM σ Bool := do
  match (← get).sudoSupported with
  | some supported => return supported
  | none =>
    n.connect
    let output ← n.run ⟨"command -v sudo", true, none, [], n.timeoutMs⟩
    let supported := output.exitCode == 0
    modify fun s => { s with sudoSupported := some supported }
    return supported

def usesSudo (opts : ExecOptions) : Bool := opts.asRoot || n.alwaysSudo

def prepare (command : String) (opts : ExecOptions) : NodeM σ String := do
  if !n.usesSudo opts then return command
  else if !(← n.supportsSudo) then
    throw (.missingCapability "sudo" n.name ("cannot execute `" ++ command ++ "` with sudo"))
  else if opts.shell then return "sudo sh -c " ++ (← Shell.quote command)
  else return "sudo " ++ command

def effectiveDir (opts : ExecOptions) (s : NodeState σ) : Option String :=
  match opts.dir with
  | some dir => some dir
  | none => s.workingDir

def mergedEnv (opts : ExecOptions) (s : NodeState σ) : Except Fault Environment :=
  (s.env.defineAll opts.env).checked

def resultOf (line : String) (output : CommandOutput) : ExecutionResult :=
  ⟨line, output.exitCode, trimmed output.stdout, output.stderr⟩

def execute (command : String) (opts : ExecOptions) : NodeM σ ExecutionResult := do
  n.connect
  let line ← n.prepare command opts
  let env ← mergedEnv opts (← get)
  let request : CommandRequest :=
    ⟨line, opts.shell, effectiveDir opts (← get), env, opts.timeoutMs.getD n.timeoutMs⟩
  if !opts.noInfoLog then log .info "executing" [n.field, ("command", line)]
  let result := resultOf line (← n.run request)
  if !result.isSuccess && !opts.noErrorLog then
    log .failure "command failed" [n.field, ("command", line),
      ("exit_code", toString result.exitCode), ("stderr", trimmed result.stderr)]
  match opts.expected with
  | some code => result.requireCode code opts.failureMessage
  | none => return result

def resultKey (command : String) (opts : ExecOptions) (env : Environment) (s : NodeState σ) :
    String :=
  toString (n.usesSudo opts) ++ "|" ++ toString opts.shell ++ "|" ++
    quotedOption (effectiveDir opts s) ++ "|" ++ env.sorted.shown ++ "|" ++ command

def store (key : String) (result : ExecutionResult) : NodeM σ Unit :=
  modify fun s => { s with results := (key, result) :: s.results.filter (·.1 ≠ key) }

def executeCached (command : String) (opts : ExecOptions) : NodeM σ ExecutionResult := do
  let s ← get
  let env ← mergedEnv opts s
  let key := n.resultKey command opts env s
  match if opts.forceRun then none else s.results.lookup key with
  | some result => return result
  | none =>
    let result ← n.execute command opts
    store key result
    return result

def pathExists (path : String) : NodeM σ Bool := do
  let arg ← Shell.quote path
  let result ← n.execute ("test -e " ++ arg) (ExecOptions.quiet { shell := true })
  return result.isSuccess

def commandExists (command : String) : NodeM σ Bool := do
  let arg ← Shell.quote command
  let result ← n.execute ("command -v " ++ arg) (ExecOptions.quiet { shell := true })
  return result.isSuccess

def detectOs : NodeM σ Os := do
  let result ← n.execute "cat /etc/os-release" (ExecOptions.quiet {})
  if result.isSuccess then return Os.Release.classify result.stdout
  else
    log .warning "/etc/os-release is not readable" [n.field]
    return .unknown

def os : NodeM σ Os := do
  match (← get).os with
  | some os => return os
  | none =>
    let os ← n.detectOs
    log .info "detected operating system" [n.field, ("os", os.text)]
    modify fun s => { s with os := some os }
    return os

end HostProbe.Node
