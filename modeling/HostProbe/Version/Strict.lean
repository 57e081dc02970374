import HostProbe.Version.Basic

/-! # Strict semantic versions

The grammar of Semantic Versioning 2.0, without any tolerance: three numbers without leading zeros
and below 2^64, then a prerelease after a hyphen and build metadata after a plus sign, each a
dot-separated list of nonempty identifiers of letters, digits and hyphens. Numeric identifiers of a
prerelease have no leading zeros; those of build metadata may. -/

namespace HostProbe.Version

open HostProbe.Text HostProbe.Decimal

def isIdentifierChar (c : Char) : Bool := c.isAlphanum || c == '-'

def isPlainNumber (s : List Char) : Bool :=
  !s.isEmpty && s.all isAsciiDigit && (s.length == 1 || s.head? != some '0')

def isBuildIdentifier (s : List Char) : Bool := !s.isEmpty && s.all isIdentifierChar

def isPrereleaseIdentifier (s : List Char) : Bool :=
  isBuildIdentifier s && (!s.all isAsciiDigit || isPlainNumber s)

def plainNumber? (s : List Char) : Option UInt64 :=
  if isPlainNumber s then readUInt64? s else none

def cutAt (mark : Char) (s : List Char) : List Char × Option (List Char) :=
  match splitOnce? [mark] s with
  | some (a, b) => (a, some b)
  | none => (s, none)

def dotted (p : List Char → Bool) : Option (List Char) → Bool
  | none => true
  | some s => (splitAt '.' s).all p

def parseStrict? (s : List Char) : Option Version :=
  let (front, build) := cutAt '+' s
  let (core, pre) := cutAt '-' front
  if dotted isPrereleaseIdentifier pre && dotted isBuildIdentifier build then
    match splitAt '.' core with
    | [major, minor, patch] => do
      let major ← plainNumber? major
      let minor ← plainNumber? minor
      let patch ← plainNumber? patch
      some ⟨major, minor, patch, pre.map String.ofList, build.map String.ofList⟩
    | _ => none
  else none

end HostProbe.Version
