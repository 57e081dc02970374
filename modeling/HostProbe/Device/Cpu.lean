import HostProbe.Decimal.Integer
import HostProbe.Node.Execute

/-! # Processors and the kernel log -/

namespace HostProbe

open HostProbe.Text

variable {σ : Type} (n : Node σ)

inductive CpuArchitecture where
  | x86
  | arm
  | other (name : String)
  deriving DecidableEq, Repr

namespace CpuArchitecture

def named : String → CpuArchitecture
  | "x86_64" => .x86
  | "aarch64" => .arm
  | name => .other name

def text : CpuArchitecture → String
  | .x86 => "x86_64"
  | .arm => "aarch64"
  | .other name => name

def clockSources : CpuArchitecture → Except Fault (List String)
  | .x86 => .ok ["hyperv_clocksource_tsc_page", "lis_hyperv_clocksource_tsc_page",
      "hyperv_clocksource"]
  | .arm => .ok ["arch_sys_counter"]
  | .other name => .error (.unsupportedArch name)

end CpuArchitecture

inductive CpuMaker where
  | intel
  | amd
  | other
  deriving DecidableEq, Repr

def CpuMaker.text : CpuMaker → String
  | .intel => "Intel"
  | .amd => "Amd"
  | .other => "Other"

namespace Lscpu

def fieldOf? (output name : String) : Option String :=
  (lines output.toList).findSome? fun line =>
    match splitOnce? [':'] line with
    | some (key, value) =>
      if trim key = name.toList then some (String.ofList (trim value)) else none
    | none => none

def field (name : String) : NodeM σ String := do
  let opts : ExecOptions := { noInfoLog := true }
  let result ← n.executeCached "lscpu" (opts.successOr "failed to run lscpu")
  match fieldOf? result.stdout name with
  | some value => return value
  | none => throw (.conditionNotMet ("no `" ++ name ++ "` in lscpu output"))

def architecture : NodeM σ CpuArchitecture := do return .named (← field n "Architecture")

def coreCount : NodeM σ Nat := do
  let value ← field n "CPU(s)"
  match Decimal.readBelow? UInt32.size value.toList with
  | some count => return count
  | none => throw (.conditionNotMet ("unexpected CPU count `" ++ value ++ "` in lscpu output"))

def maker : NodeM σ CpuMaker := do
  match ← field n "Vendor ID" with
  | "GenuineIntel" => return .intel
  | "AuthenticAMD" => return .amd
  | _ => return .other

end Lscpu

namespace Dmesg

def output (force : Bool) : NodeM σ String := do
  let opts : ExecOptions := { asRoot := true, noInfoLog := true, forceRun := force }
  return (← n.executeCached "dmesg" (opts.successOr "failed to read the kernel log")).stdout

def contains (text : String) : NodeM σ Bool := do return mentions (← output n false) text

end Dmesg

end HostProbe
