import HostProbe.Decimal.Binary64
import HostProbe.Retry.Report
import HostProbe.Tool.Files
import HostProbe.Tool.Registry
import HostProbe.Tool.Service

/-! # Crash dumps on a node

What has to be set up before a crash for its dump to be kept, and what shows afterwards that it was.
Where dumps go is a matter of the tool on its node: it is the configured directory until the dumps
are moved. -/

namespace HostProbe

open HostProbe.Text NodeM

structure Kdump where
  serial : Nat
  variant : Variant KdumpHooks
  os : Os
  settings : KdumpSettings

namespace Kdump

variable {σ : Type}

def ofTool? (t : Tool) : Option Kdump :=
  match t.detail with
  | .kdump variant os settings => some ⟨t.serial, variant, os, settings⟩
  | _ => none

def entry : ToolEntry σ where
  ref := .kdump
  dependencies := ["kexec", "makedumpfile"]
  create os config := (kdumpVariants.select os).map fun v =>
    ⟨v.hooks.command, true, .kdump v os config.kdump⟩
  probe := Tool.probeCommand
  install n t := match t.detail with
    | .kdump v _ _ => n.installPackages [v.hooks.package]
    | _ => Tool.refuseInstall n t

def get : Procedure σ Kdump := do
  let t ← Procedure.tool .kdump
  match ofTool? t with
  | some k => return k
  | none => throw (.toolTypeMismatch t.id)

variable (k : Kdump) (n : Node σ)

def dumpPathIn (s : NodeState σ) : String := (s.dumpPaths.lookup k.serial).getD k.settings.dumpPath

def dumpPath : NodeM σ String := do return k.dumpPathIn (← MonadState.get)

def moveDumps (path : String) : NodeM σ Unit :=
  modify fun s => { s with dumpPaths := (k.serial, path) :: s.dumpPaths }

def requiredOptions : List String := ["CONFIG_KEXEC", "CONFIG_CRASH_DUMP", "CONFIG_PROC_VMCORE"]

def requireOptions (fileArg : String) : List String → NodeM σ Unit
  | [] => return ()
  | option :: rest => do
    let opts : ExecOptions := { noInfoLog := true }
    let _ ← n.execute ("grep " ++ option ++ "=y " ++ fileArg)
      (opts.successOr ("The kernel config " ++ option ++ " is not set. Kdump is not supported."))
    requireOptions fileArg rest

def checkKernel (configPath : String) : NodeM σ Unit := do
  let arg ← Shell.quote configPath
  requireOptions n arg requiredOptions

def parameter (crashkernel : String) : String := "crashkernel=" ++ crashkernel

def parameterLines : String := "^GRUB_CMDLINE_LINUX"

def editDefaults (file crashkernel : String) : Procedure σ Unit := do
  if !(← n.pathExists file) then
    throw (.conditionNotMet (file ++ " doesn't exist, check the grub file for " ++ k.os.text))
  let _ ← Procedure.tool .cat
  let _ ← Procedure.tool .sed
  let content ← Cat.read n file true true
  if mentions content "crashkernel" then
    Sed.substitute n "crashkernel=[^[:space:]\"]*" (parameter crashkernel) file
      (some parameterLines) true
  else
    Sed.substitute n "\"$" (" " ++ parameter crashkernel ++ "\"") file (some parameterLines) true
  let content ← Cat.read n file true true
  if !mentions content (parameter crashkernel) then
    throw (.conditionNotMet
      (parameter crashkernel ++ " is missing from " ++ file ++ " after editing it"))

def updateCommand (crashkernel : String) : NodeM σ String := do
  match k.variant.hooks.update with
  | .command line => return line
  | .byFirmware =>
    if k.os.setsBootParameters then
      return "grubby --update-kernel=ALL --args=\"crashkernel=" ++ crashkernel ++ "\""
    else if ← n.pathExists "/sys/firmware/efi" then
      return "grub2-mkconfig -o /boot/efi/EFI/redhat/grub.cfg"
    else return "grub2-mkconfig -o /boot/grub2/grub.cfg"

def reserveMemory (crashkernel : String) : Procedure σ Unit := do
  match k.variant.hooks.defaults.path? k.os with
  | some file => k.editDefaults n file crashkernel
  | none => pure ()
  let command ← k.updateCommand n crashkernel
  let opts : ExecOptions := { asRoot := true, shell := true }
  let _ ← n.execute command (opts.successOr "Failed to update grub")

def serviceConfig : String := "/etc/kdump.conf"

def memoryTib? (total : String) : Except Fault (Option Float) :=
  match dropStart? "Ti".toList.reverse total.toList.reverse with
  | none => .ok none
  | some size =>
    match Decimal.readFloat? (trim size.reverse) with
    | some x => .ok (some x)
    | none => .error (.conditionNotMet ("cannot parse memory size `" ++ total ++ "`"))

/-- The directory to which dumps are moved, when the machine has more memory than the default
directory is good for. -/
def relocate : Procedure σ (Option String) := do
  let opts : ExecOptions := { asRoot := true, shell := true }
  let result ← n.execute "free -h | grep Mem | awk '\x7bprint $2\x7d'" opts
  let total := trimmed result.stdout
  match ← memoryTib? total with
  | none => return none
  | some size =>
    if size ≤ k.settings.largeMemoryTib then return none
    else
      let path := k.settings.relocatedDumpPath
      log (σ := σ) .info "relocating dump path" [n.field, ("memory", total), ("path", path)]
      let arg ← Shell.quote path
      let _ ← n.execute ("mkdir -p " ++ arg) (opts.successOr ("failed to create " ++ path))
      let _ ← Procedure.tool .sed
      Sed.substitute n "path" "#path" serviceConfig (some "^path") true
      Sed.append n ("path " ++ path) serviceConfig true
      return some path

def configureDumpPath : Procedure σ Unit := do
  match k.variant.hooks.relocation with
  | .keep => return ()
  | .largeMemory =>
    match ← k.relocate n with
    | some path => (k.moveDumps path : NodeM σ Unit)
    | none => return ()

def enableService : Procedure σ Unit := do
  let _ ← Procedure.tool .service
  Service.enable n k.variant.hooks.service

def panicOnNmi : Procedure σ Unit := do
  if ← n.pathExists "/proc/sys/kernel/unknown_nmi_panic" then
    let _ ← Procedure.tool .sysctl
    Sysctl.write n "kernel.unknown_nmi_panic" "1"

def crashLoaded : String := "/sys/kernel/kexec_crash_loaded"

def memoryMap : String := "/proc/iomem"

def requireLoaded : NodeM σ Unit := do
  let value ← Cat.read n crashLoaded false true
  if value = "1" then return ()
  else throw (.conditionNotMet (crashLoaded ++ " reads `" ++ value ++ "`, not 1"))

def checkLoaded (c : Config) (crashkernel : String) : Procedure σ Unit := do
  let _ ← Procedure.tool .cat
  let cmdline ← Cat.read n "/proc/cmdline" false true
  if !mentions cmdline (parameter crashkernel) then
    throw (.conditionNotMet
      (parameter crashkernel ++ " boot parameter is not present in kernel cmdline"))
  if !(← n.pathExists crashLoaded) then
    throw (.conditionNotMet (crashLoaded ++ " doesn't exist, kexec crash is not loaded"))
  Node.untilMet "kexec-crash-loaded" (c.retryPolicy "kexec-crash-loaded") (requireLoaded n)
  let map ← Cat.read n memoryMap true true
  if !mentions map "Crash kernel" then
    throw (.conditionNotMet ("no 'Crash kernel' in " ++ memoryMap ++
      ", memory isn't reserved for the crash kernel"))

def checkDump : NodeM σ Unit := do
  let path ← k.dumpPath
  let size := toString k.settings.minDumpSizeMb
  let arg ← Shell.quote path
  let opts : ExecOptions := { asRoot := true, shell := true }
  let result ← n.execute ("find " ++ arg ++ " -type f -size +" ++ size ++ "M") opts
  if result.stdout.isEmpty then
    throw (.conditionNotMet ("no file larger than " ++ size ++ "M in " ++ path ++
      ", the dump file wasn't generated"))

def shown (s : NodeState σ) : String :=
  "Kdump \x7b variant: " ++ quoted k.variant.name ++ ", os: " ++ k.os.shown ++
    ", dump_path: " ++ quoted (k.dumpPathIn s) ++ " \x7d"

end Kdump

end HostProbe
