import HostProbe.Config.Basic
import HostProbe.Kdump.Variant
import HostProbe.Text.Quoted

/-! # Tools

A tool stands for a program on a node. Its id names it in the registry and in the cache; its
implementation tells apart tools that were registered under the same id. What a tool found out about
the node when it was made stays with it. -/

namespace HostProbe

open HostProbe.Text

structure ToolRef where
  id : String
  implementation : String
  deriving DecidableEq, Repr

namespace ToolRef

/-! The kinds of tools that are known. -/

def cat : ToolRef := ⟨"cat", "Cat"⟩
def sed : ToolRef := ⟨"sed", "Sed"⟩
def echo : ToolRef := ⟨"echo", "Echo"⟩
def service : ToolRef := ⟨"service", "Service"⟩
def sysctl : ToolRef := ⟨"sysctl", "Sysctl"⟩
def wget : ToolRef := ⟨"wget", "Wget"⟩
def tar : ToolRef := ⟨"tar", "Tar"⟩
def gcc : ToolRef := ⟨"gcc", "Gcc"⟩
def make : ToolRef := ⟨"make", "Make"⟩
def git : ToolRef := ⟨"git", "Git"⟩
def kexec : ToolRef := ⟨"kexec", "Kexec"⟩
def makedumpfile : ToolRef := ⟨"makedumpfile", "Makedumpfile"⟩
def kdump : ToolRef := ⟨"kdump", "Kdump"⟩
def dmesg : ToolRef := ⟨"dmesg", "Dmesg"⟩
def lscpu : ToolRef := ⟨"lscpu", "Lscpu"⟩
def clocksource : ToolRef := ⟨"clocksource", "Clocksource"⟩
def chrony : ToolRef := ⟨"chrony", "Chrony"⟩
def lsmod : ToolRef := ⟨"lsmod", "Lsmod"⟩
def modprobe : ToolRef := ⟨"modprobe", "Modprobe"⟩
def lspci : ToolRef := ⟨"lspci", "Lspci"⟩

end ToolRef

inductive ToolRequest where
  | ofKind (ref : ToolRef)
  | ofId (id : String)
  deriving DecidableEq, Repr

inductive ToolDetail where
  | plain
  | kexec (family : OsFamily)
  | makedumpfile (package : String)
  | kdump (variant : Variant KdumpHooks) (os : Os) (settings : KdumpSettings)
  | chrony (service : String)
  deriving Repr

structure ToolSeed where
  command : String
  canInstall : Bool
  detail : ToolDetail

structure Tool where
  id : String
  implementation : String
  serial : Nat
  command : String
  canInstall : Bool
  detail : ToolDetail
  deriving Repr

namespace Tool

def shown (t : Tool) : String :=
  "Tool \x7b id: " ++ quoted t.id ++ ", command: " ++ quoted t.command ++ " \x7d"

end Tool

structure ToolCache where
  resolved : List (String × Tool) := []
  resolving : List String := []
  next : Nat := 0

namespace ToolCache

def find? (c : ToolCache) (id : String) : Option Tool := c.resolved.lookup id

def contains (c : ToolCache) (id : String) : Bool := (c.find? id).isSome

def insert (c : ToolCache) (id : String) (t : Tool) : ToolCache :=
  { c with resolved := (id, t) :: c.resolved.filter (·.1 ≠ id) }

def erase (c : ToolCache) (id : String) : ToolCache :=
  { c with resolved := c.resolved.filter (·.1 ≠ id) }

def size (c : ToolCache) : Nat := c.resolved.length

def ids (c : ToolCache) : List String := (c.resolved.map (·.1)).mergeSort (decide <| · ≤ ·)

def begin (c : ToolCache) (id : String) : ToolCache := { c with resolving := id :: c.resolving }

def finish (c : ToolCache) (id : String) : ToolCache :=
  { c with resolving := c.resolving.filter (· ≠ id) }

end ToolCache

end HostProbe
