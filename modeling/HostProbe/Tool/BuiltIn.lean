import HostProbe.Clock.Chrony
import HostProbe.Kdump.Kexec
import HostProbe.Kdump.Setup

/-! # The tools that every registry can start from -/

namespace HostProbe.ToolRegistry

variable {σ : Type}

def builtInEntries : List (ToolEntry σ) := [
  Tool.commandEntry .cat "cat" none,
  Tool.commandEntry .sed "sed" none,
  Tool.commandEntry .echo "echo" none,
  Tool.commandEntry .service "systemctl" none,
  Tool.commandEntry .sysctl "sysctl" none,
  Tool.commandEntry .wget "wget" (some "wget"),
  Tool.commandEntry .tar "tar" (some "tar"),
  Tool.commandEntry .gcc "gcc" (some "gcc"),
  Tool.commandEntry .make "make" (some "make"),
  Tool.commandEntry .git "git" (some "git"),
  Kexec.entry,
  Kexec.makedumpfileEntry,
  Kdump.entry,
  Tool.commandEntry .dmesg "dmesg" none,
  Tool.commandEntry .lscpu "lscpu" none,
  Tool.commandEntry .clocksource "cat" none,
  Chrony.entry,
  Tool.commandEntry .lsmod "lsmod" none,
  Tool.commandEntry .modprobe "modprobe" none,
  Tool.commandEntry .lspci "lspci" (some "pciutils")]

def builtIn (config : Config) : ToolRegistry σ := ⟨builtInEntries, config⟩

end HostProbe.ToolRegistry
