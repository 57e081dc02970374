import HostProbe.Retry.Policy

/-! # The configuration

Limits of commands, retries and polling, the settings of crash dumps and the way to a machine. Each
setting has a value of its own for when no document gives one. -/

namespace HostProbe

structure ExecutionSettings where
  timeoutSecs : UInt64 := 600
  asRoot : Bool := false
  deriving Repr

structure RetrySettings where
  standard : RetryPolicy := .standard
  operations : List (String × RetryPolicy) :=
    [("kexec-crash-loaded", .fixed 60 1000), ("chrony-tracking", .fixed 10 1000)]
  deriving Repr

structure PollingSettings where
  intervalMs : UInt64 := 500
  timeoutSecs : UInt64 := 60
  deriving Repr

structure KdumpSettings where
  crashkernel : String := "512M"
  dumpPath : String := "/var/crash"
  relocatedDumpPath : String := "/mnt/crash"
  minDumpSizeMb : UInt64 := 10
  largeMemoryTib : Float := 1.0
  deriving Repr

structure SshSettings where
  port : UInt16 := 22
  username : String := "root"
  privateKeyFile : Option String := none
  connectTimeoutSecs : UInt64 := 30
  deriving Repr

structure Config where
  execution : ExecutionSettings := {}
  retries : RetrySettings := {}
  polling : PollingSettings := {}
  kdump : KdumpSettings := {}
  ssh : SshSettings := {}
  deriving Repr

namespace Config

def retryPolicy (c : Config) (operation : String) : RetryPolicy :=
  (c.retries.operations.lookup operation).getD c.retries.standard

end Config

end HostProbe
