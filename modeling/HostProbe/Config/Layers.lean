import HostProbe.Config.Document
import HostProbe.Decimal.Integer
import HostProbe.Fault
import HostProbe.Text.Blank
import HostProbe.Text.Utf8
import HostProbe.Yaml.Document
import HostProbe.Yaml.Merge

/-! # Where the configuration comes from

Four layers, each over the one before: the built-in document, the file of the user, a file that is
named for this run, and variables of the environment. The documents are merged before they are read
as a configuration; the first failure in this order is the one that is reported. -/

namespace HostProbe

open Yaml

inductive FileContent where
  | bytes (content : List UInt8)
  | refused (reason : String)

structure ConfigSources where
  userPath : String
  user : Option FileContent
  named : Option (String × Option FileContent)
  environment : String → Option (List UInt8)

namespace Config

def entry (key : String) (value : Value) : Value × Value := (.text key, value)

def builtInOperation (attempts : Int) : Value :=
  .mapping [entry "max-attempts" (.int attempts), entry "strategy" (.text "fixed-delay"),
    entry "initial-delay-ms" (.int 1000), entry "max-delay-ms" (.int 1000)]

def builtIn : Value :=
  .mapping [
    entry "execution" (.mapping [entry "timeout-secs" (.int 600), entry "sudo" (.bool false)]),
    entry "retry-policies" (.mapping [
      entry "default" (.mapping [
        entry "max-attempts" (.int 3),
        entry "strategy" (.text "exponential-backoff"),
        entry "backoff-multiplier" (.float 0x4000000000000000),
        entry "initial-delay-ms" (.int 1000),
        entry "max-delay-ms" (.int 30000)]),
      entry "operations" (.mapping [
        entry "kexec-crash-loaded" (builtInOperation 60),
        entry "chrony-tracking" (builtInOperation 10)])]),
    entry "polling" (.mapping [entry "interval-ms" (.int 500), entry "timeout-secs" (.int 60)]),
    entry "kdump" (.mapping [
      entry "crashkernel" (.text "512M"),
      entry "dump-path" (.text "/var/crash"),
      entry "relocated-dump-path" (.text "/mnt/crash"),
      entry "min-dump-size-mb" (.int 10),
      entry "large-memory-threshold-tib" (.float 0x3FF0000000000000)]),
    entry "ssh" (.mapping [entry "port" (.int 22), entry "username" (.text "root"),
      entry "connect-timeout-secs" (.int 30)])]

def unreadable (origin : String) : Fault := .invalidConfig ("Failed to parse " ++ origin)

def ofDocument (origin : String) (v : Value) : Except Fault Config :=
  match ofValue? v with
  | some c => .ok c
  | none => .error (unreadable origin)

def builtInConfig : Except Fault Config := ofDocument "runtime-defaults.yaml" builtIn

def document (path : String) : FileContent → Except Fault Value
  | .refused reason => .error (.io reason)
  | .bytes content =>
    match Text.decode? content with
    | none => .error (.io "stream did not contain valid UTF-8")
    | some text =>
      match Value.parse? text with
      | some v => .ok v
      | none => .error (unreadable path)

def mergedUser (s : ConfigSources) : Except Fault Merged :=
  match s.user with
  | none => .ok (builtIn, [])
  | some content => (document s.userPath content).map (merge builtIn)

def merged (s : ConfigSources) : Except Fault Merged := do
  let (base, conflicts) ← mergedUser s
  match s.named with
  | none => return (base, conflicts)
  | some (path, none) => throw (.configNotFound path)
  | some (path, some content) =>
    let (v, more) := merge base (← document path content)
    return (v, conflicts ++ more)

def variableOf (s : ConfigSources) (name : String) : Option String :=
  (s.environment name).bind Text.decode?

def number? (s : ConfigSources) (name : String) (bound : Nat) : Except Fault (Option Nat) :=
  match variableOf s name with
  | none => .ok none
  | some text =>
    match Decimal.readBelow? bound (Text.trim text.toList) with
    | some n => .ok (some n)
    | none => .error (.invalidConfig (name ++ " must be a valid number"))

def overridden (s : ConfigSources) (c : Config) : Except Fault Config := do
  let timeout ← number? s "VMCHECK_EXEC_TIMEOUT_SECS" UInt64.size
  let interval ← number? s "VMCHECK_POLL_INTERVAL_MS" UInt64.size
  let pollTimeout ← number? s "VMCHECK_POLL_TIMEOUT_SECS" UInt64.size
  let port ← number? s "VMCHECK_SSH_PORT" UInt16.size
  return { c with
    execution := { c.execution with
      timeoutSecs := (timeout.map UInt64.ofNat).getD c.execution.timeoutSecs }
    polling := {
      intervalMs := (interval.map UInt64.ofNat).getD c.polling.intervalMs
      timeoutSecs := (pollTimeout.map UInt64.ofNat).getD c.polling.timeoutSecs }
    kdump := { c.kdump with
      crashkernel := (variableOf s "VMCHECK_CRASHKERNEL").getD c.kdump.crashkernel
      dumpPath := (variableOf s "VMCHECK_DUMP_PATH").getD c.kdump.dumpPath }
    ssh := { c.ssh with port := (port.map UInt16.ofNat).getD c.ssh.port } }

def load (s : ConfigSources) : Except Fault Config := do
  let (v, _) ← merged s
  let c ← ofDocument "merged configuration" v
  overridden s c

end Config

end HostProbe
