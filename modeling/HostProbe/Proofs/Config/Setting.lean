import HostProbe.Config.Layers
import HostProbe.Proofs.Yaml.Layers
import Mathlib.Data.List.Forall2

/-! The scalar settings of a configuration, in a table for each record: the name in a document, how a
value there is read, what stands without one, and the variable that replaces it. The tables say what
the readers of the records do. -/

namespace HostProbe

open Yaml Yaml.Value Settings

structure Setting (ρ : Type) where
  {α : Type}
  name : String
  read : Value → Option α
  own : α
  get : ρ → α
  override? : Option (String × (String → Option α)) := none

namespace Setting

variable {ρ : Type}

def ofHeld (f : Setting ρ) (held : Option Value) : Option f.α := held.elim (some f.own) f.read

@[mk_iff]
structure Scalar (f : Setting ρ) : Prop where
  mapping : ∀ es, f.read (.mapping es) = none
  null : ∀ x, f.read .null = some x → x = f.own

end Setting

def numberBelow? (bound : Nat) (text : String) : Option Nat :=
  Decimal.readBelow? bound (Text.trim text.toList)

def strategies : List (String × RetryStrategy) := [
  ("none", .immediate),
  ("fixed-delay", .fixed),
  ("exponential-backoff", .exponential),
  ("linear-backoff", .linear)]

def strategy? : Value → Option RetryStrategy
  | .text name => strategies.lookup name
  | .tagged name v => if v.isNull then strategies.lookup name else none
  | _ => none

namespace ExecutionSettings

def settings : List (Setting ExecutionSettings) := [
  { name := "timeout-secs", read := natural?, own := 600, get := (·.timeoutSecs),
    override? := some ("VMCHECK_EXEC_TIMEOUT_SECS",
      fun text => (numberBelow? UInt64.size text).map UInt64.ofNat) },
  { name := "sudo", read := bool?, own := false, get := (·.asRoot) }]

end ExecutionSettings

namespace RetryPolicy

def settings : List (Setting RetryPolicy) := [
  { name := "max-attempts", read := fun v => (below? UInt32.size v).map UInt32.ofNat, own := 3,
    get := (·.maxAttempts) },
  { name := "strategy", read := strategy?, own := .exponential, get := (·.strategy) },
  { name := "backoff-multiplier", read := float?, own := 2.0, get := (·.multiplier) },
  { name := "initial-delay-ms", read := natural?, own := 1000, get := (·.initialDelay) },
  { name := "max-delay-ms", read := natural?, own := 30000, get := (·.maxDelay) }]

end RetryPolicy

namespace PollingSettings

def settings : List (Setting PollingSettings) := [
  { name := "interval-ms", read := natural?, own := 500, get := (·.intervalMs),
    override? := some ("VMCHECK_POLL_INTERVAL_MS",
      fun text => (numberBelow? UInt64.size text).map UInt64.ofNat) },
  { name := "timeout-secs", read := natural?, own := 60, get := (·.timeoutSecs),
    override? := some ("VMCHECK_POLL_TIMEOUT_SECS",
      fun text => (numberBelow? UInt64.size text).map UInt64.ofNat) }]

end PollingSettings

namespace KdumpSettings

def settings : List (Setting KdumpSettings) := [
  { name := "crashkernel", read := text?, own := "512M", get := (·.crashkernel),
    override? := some ("VMCHECK_CRASHKERNEL", some) },
  { name := "dump-path", read := text?, own := "/var/crash", get := (·.dumpPath),
    override? := some ("VMCHECK_DUMP_PATH", some) },
  { name := "relocated-dump-path", read := text?, own := "/mnt/crash", get := (·.relocatedDumpPath) },
  { name := "min-dump-size-mb", read := natural?, own := 10, get := (·.minDumpSizeMb) },
  { name := "large-memory-threshold-tib", read := float?, own := 1.0, get := (·.largeMemoryTib) }]

end KdumpSettings

namespace SshSettings

def settings : List (Setting SshSettings) := [
  { name := "port", read := fun v => (below? UInt16.size v).map UInt16.ofNat, own := 22,
    get := (·.port),
    override? := some ("VMCHECK_SSH_PORT",
      fun text => (numberBelow? UInt16.size text).map UInt16.ofNat) },
  { name := "username", read := text?, own := "root", get := (·.username) },
  { name := "private-key-file", read := optionalText?, own := none, get := (·.privateKeyFile) },
  { name := "connect-timeout-secs", read := natural?, own := 30, get := (·.connectTimeoutSecs) }]

end SshSettings

section Scalars

attribute [local simp] natural? below? bool? float? text? optionalText? strategy? Value.untagged
  Setting.scalar_iff

lemma ExecutionSettings.scalar : ∀ f ∈ settings, f.Scalar := by simp [settings]

lemma RetryPolicy.scalar : ∀ f ∈ settings, f.Scalar := by simp [settings]

lemma PollingSettings.scalar : ∀ f ∈ settings, f.Scalar := by simp [settings]

lemma KdumpSettings.scalar : ∀ f ∈ settings, f.Scalar := by simp [settings]

lemma SshSettings.scalar : ∀ f ∈ settings, f.Scalar := by simp [settings]

end Scalars

end HostProbe
