import HostProbe.Decimal.Integer
import HostProbe.Device.Module
import HostProbe.Device.Pci
import HostProbe.Tool.Files
import HostProbe.Tool.Procedure

/-! # Virtual network devices

Checks that go over several tools: whether the driver of a virtual function is loaded, removing what
stands on it, and the packet counters of an interface. -/

namespace HostProbe.Network

open HostProbe.Text

variable {σ : Type} (n : Node σ)

def anyLoaded : List String → NodeM σ Bool
  | [] => return false
  | name :: rest => do
    if ← Lsmod.isLoaded n name true then return true else anyLoaded rest

def driverLoaded : Procedure σ Bool := do
  let _ ← Procedure.tool .lsmod
  anyLoaded n sriovModules

def removeDriver : Procedure σ String := do
  let _ ← Procedure.tool .lspci
  match ← Lspci.sriovSlots n true with
  | [] => throw (.conditionNotMet "no SR-IOV device found")
  | slot :: _ =>
    let driver ← Lspci.usedModule n slot
    match reloadModules? driver with
    | none => throw (.conditionNotMet (driver ++ " is not a reloadable SR-IOV module"))
    | some stacked =>
      let _ ← Procedure.tool .modprobe
      Modprobe.remove n stacked
      return driver

def loadModule (name : String) : Procedure σ Unit := do
  let _ ← Procedure.tool .modprobe
  Modprobe.load n name

inductive Direction where
  | sent
  | received
  deriving DecidableEq, Repr

def Direction.file : Direction → String
  | .sent => "tx_packets"
  | .received => "rx_packets"

def packets (interface : String) (direction : Direction) : Procedure σ Nat := do
  let path := "/sys/class/net/" ++ interface ++ "/statistics/" ++ direction.file
  let _ ← Procedure.tool .cat
  let value ← Cat.read n path false true
  match Decimal.readBelow? UInt64.size (trim value.toList) with
  | some count => return count
  | none => throw (.conditionNotMet (path ++ " holds `" ++ value ++ "`, not a counter"))

end HostProbe.Network
