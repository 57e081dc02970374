import HostProbe.Config.Basic
import HostProbe.Yaml.Value

/-! # The configuration as a document

A record is a mapping with text keys; nothing stands for a record without fields. A field that is
not given has the value of its own, a field that is unknown is passed over. Tags are seen through.
Numbers are refused outside their range, and so is every other value of the wrong kind. -/

namespace HostProbe

open Yaml

namespace Settings

abbrev Fields := List (String × Value)

def text? (v : Value) : Option String :=
  match v.untagged with
  | .text s => some s
  | _ => none

def bool? (v : Value) : Option Bool :=
  match v.untagged with
  | .bool b => some b
  | _ => none

def below? (bound : Nat) (v : Value) : Option Nat :=
  match v.untagged with
  | .int n => if 0 ≤ n ∧ n < bound then some n.toNat else none
  | _ => none

def natural? (v : Value) : Option UInt64 := (below? UInt64.size v).map UInt64.ofNat

def float? (v : Value) : Option Float :=
  match v.untagged with
  | .float bits => some (.ofBits bits)
  | .int n => some (.ofInt n)
  | _ => none

def optionalText? (v : Value) : Option (Option String) :=
  match v with
  | .null => some none
  | v => (text? v).map some

def fields? (v : Value) : Option Fields :=
  match v.untagged with
  | .null => some []
  | .mapping es => es.mapM fun (k, v) => (text? k).map fun k => (k, v)
  | _ => none

def field? {α : Type} (fs : Fields) (name : String) (read : Value → Option α) (otherwise : α) :
    Option α :=
  match fs.filter (·.1 == name) with
  | [] => some otherwise
  | [(_, v)] => read v
  | _ => none

end Settings

open Settings

namespace RetryStrategy

def text : RetryStrategy → String
  | .immediate => "none"
  | .fixed => "fixed-delay"
  | .exponential => "exponential-backoff"
  | .linear => "linear-backoff"

def named? (s : String) : Option RetryStrategy :=
  [immediate, fixed, exponential, linear].find? (·.text == s)

def ofValue? : Value → Option RetryStrategy
  | .text s => named? s
  | .tagged tag v => if v.isNull then named? tag else none
  | _ => none

end RetryStrategy

namespace RetryPolicy

def ofValue? (v : Value) : Option RetryPolicy := do
  let fs ← fields? v
  let d : RetryPolicy := .standard
  return {
    maxAttempts := ← field? fs "max-attempts"
      (fun v => (below? UInt32.size v).map UInt32.ofNat) d.maxAttempts
    strategy := ← field? fs "strategy" RetryStrategy.ofValue? d.strategy
    multiplier := ← field? fs "backoff-multiplier" float? d.multiplier
    initialDelay := ← field? fs "initial-delay-ms" natural? d.initialDelay
    maxDelay := ← field? fs "max-delay-ms" natural? d.maxDelay }

def toValue (p : RetryPolicy) : Value :=
  .mapping [
    (.text "max-attempts", .int p.maxAttempts.toNat),
    (.text "strategy", .text p.strategy.text),
    (.text "backoff-multiplier", .float p.multiplier.toBits),
    (.text "initial-delay-ms", .int p.initialDelay.toNat),
    (.text "max-delay-ms", .int p.maxDelay.toNat)]

end RetryPolicy

namespace ExecutionSettings

def ofValue? (v : Value) : Option ExecutionSettings := do
  let fs ← fields? v
  let d : ExecutionSettings := {}
  return {
    timeoutSecs := ← field? fs "timeout-secs" natural? d.timeoutSecs
    asRoot := ← field? fs "sudo" bool? d.asRoot }

def toValue (s : ExecutionSettings) : Value :=
  .mapping [(.text "timeout-secs", .int s.timeoutSecs.toNat), (.text "sudo", .bool s.asRoot)]

end ExecutionSettings

namespace RetrySettings

def operations? (v : Value) : Option (List (String × RetryPolicy)) := do
  let fs ← fields? v
  let policies ← fs.mapM fun (name, v) => (RetryPolicy.ofValue? v).map fun p => (name, p)
  return policies.reverse

def ofValue? (v : Value) : Option RetrySettings := do
  let fs ← fields? v
  return {
    standard := ← field? fs "default" RetryPolicy.ofValue? .standard
    operations := ← field? fs "operations" operations? [] }

def toValue (s : RetrySettings) : Value :=
  .mapping [
    (.text "default", s.standard.toValue),
    (.text "operations", .mapping (s.operations.map fun (name, p) => (.text name, p.toValue)))]

end RetrySettings

namespace PollingSettings

def ofValue? (v : Value) : Option PollingSettings := do
  let fs ← fields? v
  let d : PollingSettings := {}
  return {
    intervalMs := ← field? fs "interval-ms" natural? d.intervalMs
    timeoutSecs := ← field? fs "timeout-secs" natural? d.timeoutSecs }

def toValue (s : PollingSettings) : Value :=
  .mapping [
    (.text "interval-ms", .int s.intervalMs.toNat),
    (.text "timeout-secs", .int s.timeoutSecs.toNat)]

end PollingSettings

namespace KdumpSettings

def ofValue? (v : Value) : Option KdumpSettings := do
  let fs ← fields? v
  let d : KdumpSettings := {}
  return {
    crashkernel := ← field? fs "crashkernel" text? d.crashkernel
    dumpPath := ← field? fs "dump-path" text? d.dumpPath
    relocatedDumpPath := ← field? fs "relocated-dump-path" text? d.relocatedDumpPath
    minDumpSizeMb := ← field? fs "min-dump-size-mb" natural? d.minDumpSizeMb
    largeMemoryTib := ← field? fs "large-memory-threshold-tib" float? d.largeMemoryTib }

def toValue (s : KdumpSettings) : Value :=
  .mapping [
    (.text "crashkernel", .text s.crashkernel),
    (.text "dump-path", .text s.dumpPath),
    (.text "relocated-dump-path", .text s.relocatedDumpPath),
    (.text "min-dump-size-mb", .int s.minDumpSizeMb.toNat),
    (.text "large-memory-threshold-tib", .float s.largeMemoryTib.toBits)]

end KdumpSettings

namespace SshSettings

def ofValue? (v : Value) : Option SshSettings := do
  let fs ← fields? v
  let d : SshSettings := {}
  return {
    port := ← field? fs "port" (fun v => (below? UInt16.size v).map UInt16.ofNat) d.port
    username := ← field? fs "username" text? d.username
    privateKeyFile := ← field? fs "private-key-file" optionalText? d.privateKeyFile
    connectTimeoutSecs := ← field? fs "connect-timeout-secs" natural? d.connectTimeoutSecs }

def toValue (s : SshSettings) : Value :=
  .mapping [
    (.text "port", .int s.port.toNat),
    (.text "username", .text s.username),
    (.text "private-key-file", (s.privateKeyFile.map Value.text).getD .null),
    (.text "connect-timeout-secs", .int s.connectTimeoutSecs.toNat)]

end SshSettings

namespace Config

def ofValue? (v : Value) : Option Config := do
  let fs ← fields? v
  return {
    execution := ← field? fs "execution" ExecutionSettings.ofValue? {}
    retries := ← field? fs "retry-policies" RetrySettings.ofValue? {}
    polling := ← field? fs "polling" PollingSettings.ofValue? {}
    kdump := ← field? fs "kdump" KdumpSettings.ofValue? {}
    ssh := ← field? fs "ssh" SshSettings.ofValue? {} }

def toValue (c : Config) : Value :=
  .mapping [
    (.text "execution", c.execution.toValue),
    (.text "retry-policies", c.retries.toValue),
    (.text "polling", c.polling.toValue),
    (.text "kdump", c.kdump.toValue),
    (.text "ssh", c.ssh.toValue)]

end Config

end HostProbe
