import HostProbe.Os.Basic

/-! # Package managers

Each distribution family has its package manager; the newer Red Hat systems have another one than
the older ones. -/

namespace HostProbe

inductive PackageKind where
  | apt
  | dnf
  | yum
  | zypper
  deriving DecidableEq, Repr

namespace PackageKind

def text : PackageKind → String
  | .apt => "apt-get"
  | .dnf => "dnf"
  | .yum => "yum"
  | .zypper => "zypper"

def all : List PackageKind := [.apt, .dnf, .yum, .zypper]

def ofOs (os : Os) : Except Fault PackageKind :=
  match os.family with
  | .debian => .ok .apt
  | .redhat => .ok (if os.version.before (.release 8 0 0) then .yum else .dnf)
  | .suse => .ok .zypper
  | .unknown => .error (os.unsupported "no known package manager")

def installCommand (names : String) : PackageKind → String
  | .apt => "DEBIAN_FRONTEND=noninteractive apt-get -y install " ++ names
  | .dnf => "dnf install -y " ++ names
  | .yum => "yum install -y --setopt=skip_missing_names_on_install=False " ++ names
  | .zypper => "zypper --non-interactive install " ++ names

def queryCommand (name : String) : PackageKind → String
  | .apt => "apt-cache policy " ++ name
  | .dnf => "dnf list " ++ name
  | .yum => "yum list " ++ name
  | .zypper => "zypper --non-interactive search -x " ++ name

def refreshCommand? : PackageKind → Option String
  | .apt => some "apt-get update"
  | .zypper => some "zypper --non-interactive --gpg-auto-import-keys refresh"
  | .dnf => none
  | .yum => none

end PackageKind

end HostProbe
