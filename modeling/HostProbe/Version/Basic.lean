import HostProbe.Text.Blank
import HostProbe.Text.Quoted
import HostProbe.Decimal.Integer

/-! # Versions

A version is a triple of numbers with an optional prerelease and optional build metadata. Versions
are ordered as semantic versions are: by the triple, then by the prerelease, identifier by
identifier, where a release stands above its prereleases; build metadata plays no part. -/

namespace HostProbe

open HostProbe.Text HostProbe.Decimal

structure Version where
  major : UInt64
  minor : UInt64
  patch : UInt64
  prerelease : Option String
  build : Option String
  deriving DecidableEq, Repr, Inhabited

namespace Version

def release (major minor patch : UInt64) : Version := ⟨major, minor, patch, none, none⟩

def isPrerelease (v : Version) : Bool := v.prerelease.isSome

def marked (mark : String) : Option String → String
  | none => ""
  | some s => mark ++ s

def triple (v : Version) : String :=
  toString v.major.toNat ++ "." ++ toString v.minor.toNat ++ "." ++ toString v.patch.toNat

def text (v : Version) : String := v.triple ++ marked "-" v.prerelease ++ marked "+" v.build

def shown (v : Version) : String :=
  "VersionInfo \x7b major: " ++ toString v.major.toNat ++ ", minor: " ++ toString v.minor.toNat ++
    ", patch: " ++ toString v.patch.toNat ++ ", prerelease: " ++ quotedOption v.prerelease ++
    ", build: " ++ quotedOption v.build ++ " \x7d"

/-- Identifiers that are numbers of 64 bits compare by value and stand below all others, which
compare by code point. -/
def compareIdentifier (a b : List Char) : Ordering :=
  match readUInt64? a, readUInt64? b with
  | some x, some y => compare x y
  | some _, none => .lt
  | none, some _ => .gt
  | none, none => compare a b

def identifiers (pre : String) : List (List Char) := splitAt '.' pre.toList

/-- A release stands above its prereleases; of two prereleases the first difference decides, and
the longer one is greater if there is none. -/
def comparePrerelease : Option String → Option String → Ordering
  | none, none => .eq
  | none, some _ => .gt
  | some _, none => .lt
  | some a, some b => List.compareLex compareIdentifier (identifiers a) (identifiers b)

protected def compare (v w : Version) : Ordering :=
  (compare v.major w.major).then <| (compare v.minor w.minor).then <|
    (compare v.patch w.patch).then <| comparePrerelease v.prerelease w.prerelease

def same (v w : Version) : Bool := v.compare w == .eq

def before (v w : Version) : Bool := v.compare w == .lt

def sort (vs : List Version) : List Version := vs.mergeSort fun v w => v.compare w != .gt

end Version

end HostProbe
