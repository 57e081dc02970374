import HostProbe.Variant

/-! # Crash dumps by distribution family

The families differ in the program, the package and the service of crash dumps, in the file that
holds the kernel's parameters, in how the boot configuration is made anew, and in whether dumps are
moved on machines with much memory. -/

namespace HostProbe

inductive BootDefaults where
  | file (path : String)
  | fileBeforeEight (path : String)
  deriving DecidableEq, Repr

inductive BootUpdate where
  | command (line : String)
  | byFirmware
  deriving DecidableEq, Repr

inductive Relocation where
  | keep
  | largeMemory
  deriving DecidableEq, Repr

structure KdumpHooks where
  command : String
  package : String
  service : String
  defaults : BootDefaults
  update : BootUpdate
  relocation : Relocation
  deriving DecidableEq, Repr

def Os.setsBootParameters (os : Os) : Bool := !os.version.before (.release 8 0 0)

def BootDefaults.path? (os : Os) : BootDefaults → Option String
  | .file path => some path
  | .fileBeforeEight path => if os.setsBootParameters then none else some path

def kdumpVariants : VariantTable KdumpHooks where
  tool := "kdump"
  entries := [
    ⟨.redhat, "KdumpRedhat", {
      command := "kdumpctl"
      package := "kexec-tools"
      service := "kdump"
      defaults := .fileBeforeEight "/etc/default/grub"
      update := .byFirmware
      relocation := .largeMemory }⟩,
    ⟨.debian, "KdumpDebian", {
      command := "kdump-config"
      package := "kdump-tools"
      service := "kdump-tools"
      defaults := .file "/etc/default/grub.d/kdump-tools.cfg"
      update := .command "update-grub"
      relocation := .keep }⟩,
    ⟨.suse, "KdumpSuse", {
      command := "kdumptool"
      package := "kdump"
      service := "kdump"
      defaults := .file "/etc/default/grub"
      update := .command "grub2-mkconfig -o /boot/grub2/grub.cfg"
      relocation := .keep }⟩]
  fallback := none

end HostProbe
