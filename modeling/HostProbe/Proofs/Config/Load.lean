import HostProbe.Proofs.Config.Document
import Mathlib.Tactic.Common

/-! What becomes of the sources of a configuration: the failure that comes first, whatever comes after
it, or the merged documents with what the variables say in them. -/

namespace HostProbe

open Yaml

namespace Config

section Documents

def written? : FileContent → Option Value
  | .refused _ => none
  | .bytes bytes => (Text.decode? bytes).bind Value.parse?

variable (s : ConfigSources)

def userDocument? : Option Value := s.user.bind written?

def namedDocument? : Option Value := s.named.bind fun (_, content) => content.bind written?

def documents : List Value := (userDocument? s).toList ++ (namedDocument? s).toList

end Documents

section Faults

variable (s : ConfigSources)

def faultOf {α : Type} : Except Fault α → Option Fault
  | .error fault => some fault
  | .ok _ => none

def textOf (name : String) : Option String :=
  match s.environment name with
  | none => none
  | some bytes => Text.decode? bytes

def numbers : List (String × Nat) := [
  ("VMCHECK_EXEC_TIMEOUT_SECS", UInt64.size),
  ("VMCHECK_POLL_INTERVAL_MS", UInt64.size),
  ("VMCHECK_POLL_TIMEOUT_SECS", UInt64.size),
  ("VMCHECK_SSH_PORT", UInt16.size)]

end Faults

section Load

variable {s : ConfigSources} {c : Config}

def outcome {α : Type} (fault : Option Fault) (result : α) : Except Fault α :=
  match fault with
  | some fault => .error fault
  | none => .ok result

def replaced (s : ConfigSources) (c : Config) : Config :=
  let number name bound := (textOf s name).bind (numberBelow? bound)
  { c with
    execution := { c.execution with
      timeoutSecs := ((number "VMCHECK_EXEC_TIMEOUT_SECS" UInt64.size).map UInt64.ofNat).getD
        c.execution.timeoutSecs }
    polling := {
      intervalMs := ((number "VMCHECK_POLL_INTERVAL_MS" UInt64.size).map UInt64.ofNat).getD
        c.polling.intervalMs
      timeoutSecs := ((number "VMCHECK_POLL_TIMEOUT_SECS" UInt64.size).map UInt64.ofNat).getD
        c.polling.timeoutSecs }
    kdump := { c.kdump with
      crashkernel := (textOf s "VMCHECK_CRASHKERNEL").getD c.kdump.crashkernel
      dumpPath := (textOf s "VMCHECK_DUMP_PATH").getD c.kdump.dumpPath }
    ssh := { c.ssh with
      port := ((number "VMCHECK_SSH_PORT" UInt16.size).map UInt16.ofNat).getD c.ssh.port } }

end Load

end Config

end HostProbe
