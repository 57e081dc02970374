import HostProbe.Text.LowerCase
import HostProbe.Version.Lenient

/-! # Operating systems

A machine is classified by the family of its distribution, its name and its version. -/

namespace HostProbe

open HostProbe.Text

inductive OsFamily where
  | redhat
  | debian
  | suse
  | unknown
  deriving DecidableEq, Repr, Inhabited

namespace OsFamily

def text : OsFamily → String
  | .redhat => "Redhat"
  | .debian => "Debian"
  | .suse => "Suse"
  | .unknown => "Unknown"

def key : OsFamily → String
  | .redhat => "redhat"
  | .debian => "debian"
  | .suse => "suse"
  | .unknown => "unknown"

def ofId? (id : String) : Option OsFamily :=
  if id ∈ ["rhel", "centos", "fedora", "rocky", "almalinux", "ol", "mariner", "azurelinux"] then
    some .redhat
  else if id ∈ ["debian", "ubuntu", "linuxmint", "pop", "raspbian"] then some .debian
  else if id ∈ ["sles", "sled", "suse", "opensuse", "opensuse-leap", "opensuse-tumbleweed"] then
    some .suse
  else none

end OsFamily

structure Os where
  family : OsFamily
  name : String
  id : String
  version : Version
  deriving DecidableEq, Repr, Inhabited

namespace Os

def named (family : OsFamily) (name : String) (version : Version) : Os :=
  ⟨family, name, lowerCase name, version⟩

def noVersion : Version := .release 0 0 0

def unknown : Os := named .unknown "Unknown" noVersion

def text (os : Os) : String := os.name ++ " " ++ os.version.text ++ " (" ++ os.family.text ++ ")"

def shown (os : Os) : String :=
  "OsClassification \x7b family: " ++ os.family.text ++ ", name: " ++ quoted os.name ++
    ", id: " ++ quoted os.id ++ ", version: " ++ os.version.shown ++ " \x7d"

def unsupported (os : Os) (extra : String) : Fault :=
  .unsupportedDistro os.name os.version.text extra

end Os

end HostProbe
