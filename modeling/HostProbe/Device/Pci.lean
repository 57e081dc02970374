import HostProbe.Node.Execute

/-! # PCI devices

Devices are listed a line each: the slot, and the class, the vendor and the name between double
quotes. -/

namespace HostProbe

open HostProbe.Text

variable {σ : Type} (n : Node σ)

structure PciDevice where
  slot : String
  deviceClass : String
  vendor : String
  device : String
  deriving DecidableEq, Repr

namespace PciDevice

def isSriov (d : PciDevice) : Bool :=
  d.deviceClass == "Ethernet controller" &&
    (mentions d.vendor "Mellanox" || mentions d.vendor "Intel") &&
    mentions d.device "Virtual Function"

def text (d : PciDevice) : String :=
  d.slot ++ " " ++ d.deviceClass ++ ": " ++ d.vendor ++ " " ++ d.device

def quotedField? (s : List Char) : Option (String × List Char) :=
  match s.takeWhile isBlank, s.dropWhile isBlank with
  | _ :: _, '"' :: r =>
    match r.dropWhile (· != '"') with
    | _ :: rest => some (String.ofList (r.takeWhile (· != '"')), rest)
    | [] => none
  | _, _ => none

def ofLine? (line : String) : Option PciDevice := do
  let slot := line.toList.takeWhile (!isBlank ·)
  if slot.isEmpty then none
  else
    let (deviceClass, rest) ← quotedField? (line.toList.dropWhile (!isBlank ·))
    let (vendor, rest) ← quotedField? rest
    let (device, _) ← quotedField? rest
    some ⟨String.ofList slot, deviceClass, vendor, device⟩

end PciDevice

namespace Lspci

def devices (force : Bool) : NodeM σ (List PciDevice) := do
  let opts : ExecOptions := { asRoot := true, noInfoLog := true, forceRun := force }
  let result ← n.executeCached "lspci -m" (opts.successOr "failed to list PCI devices")
  return result.lines.filterMap PciDevice.ofLine?

def sriovSlots (force : Bool) : NodeM σ (List String) := do
  return ((← devices n force).filter (·.isSriov)).map (·.slot)

def driverLabel : String := "Kernel driver in use:"

def driverAt? (s : List Char) : Option String := do
  let rest ← dropStart? driverLabel.toList (s.dropWhile isBlank)
  match (rest.dropWhile isBlank).takeWhile (!isBlank ·) with
  | [] => none
  | name => some (String.ofList name)

def driver? (s : List Char) : Option String :=
  match driverAt? s with
  | some name => some name
  | none => go s
where
  go : List Char → Option String
    | [] => none
    | c :: cs =>
      if c = '\n' then
        match driverAt? cs with
        | some name => some name
        | none => go cs
      else go cs

def usedModule (slot : String) : NodeM σ String := do
  let arg ← Shell.quote slot
  let opts : ExecOptions := { asRoot := true, noInfoLog := true }
  let result ← n.execute ("lspci -s " ++ arg ++ " -v")
    (opts.successOr ("failed to inspect PCI device " ++ slot))
  match driver? result.stdout.toList with
  | some name => return name
  | none => throw (.conditionNotMet ("no kernel driver in use for " ++ slot))

end Lspci

end HostProbe
