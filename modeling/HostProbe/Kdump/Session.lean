import HostProbe.Kdump.Setup

/-! # Checking crash dumps step by step

A session goes from setting up over the loaded crash kernel to the dump that was kept. The restart
and the crash in between are not its business, so it can begin at any step. A step that fails leaves
the session as it was. -/

namespace HostProbe

open HostProbe.Text NodeM

inductive KdumpProgress where
  | notConfigured
  | pendingReboot
  | loaded
  | dumpVerified
  deriving DecidableEq, Repr

namespace KdumpProgress

def text : KdumpProgress → String
  | .notConfigured => "not-configured"
  | .pendingReboot => "pending-reboot"
  | .loaded => "loaded"
  | .dumpVerified => "dump-verified"

def shown : KdumpProgress → String
  | .notConfigured => "NotConfigured"
  | .pendingReboot => "PendingReboot"
  | .loaded => "Loaded"
  | .dumpVerified => "DumpVerified"

end KdumpProgress

structure KdumpSession where
  kdump : Kdump
  crashkernel : String
  progress : KdumpProgress

namespace KdumpSession

variable {σ : Type}

def start (c : Config) (crashkernel : Option String) : Procedure σ KdumpSession := do
  let k ← Kdump.get
  return ⟨k, crashkernel.getD c.kdump.crashkernel, .notConfigured⟩

variable (s : KdumpSession) (n : Node σ)

def advance (next : KdumpProgress) : NodeM σ KdumpSession := do
  log .info "kdump state changed"
    [n.field, ("from", s.progress.text), ("to", next.text)]
  return { s with progress := next }

def prepare : Procedure σ Unit := do
  let opts : ExecOptions := { noInfoLog := true }
  let release ← n.execute "uname -r" (opts.successOr "failed to read the kernel release")
  Kdump.checkKernel n ("/boot/config-" ++ trimmed release.stdout)
  s.kdump.reserveMemory n s.crashkernel
  s.kdump.configureDumpPath n
  s.kdump.enableService n
  Kdump.panicOnNmi n

def configure : Procedure σ KdumpSession := do
  s.prepare n
  s.advance n .pendingReboot

def verifyLoaded (c : Config) : Procedure σ KdumpSession := do
  Kdump.checkLoaded n c s.crashkernel
  s.advance n .loaded

def verifyDump : Procedure σ KdumpSession := do
  s.kdump.checkDump n
  s.advance n .dumpVerified

def shown (state : NodeState σ) : String :=
  "KdumpSession \x7b node: " ++ quoted n.name ++ ", kdump: " ++ s.kdump.shown state ++
    ", crashkernel: " ++ quoted s.crashkernel ++ ", state: " ++ s.progress.shown ++ " \x7d"

end KdumpSession

end HostProbe
