import HostProbe.Fault
import HostProbe.Version.Strict

/-! # Loosely written versions

Distributions and tools write `18.04`, `v1.2.3-beta` or `10.0.22000.100`. A text that is no strict
semantic version is read from its start: an optional `v`, up to three runs of digits and a list of
identifiers, with a dot, hyphen or underscore before each part but the first. A part that is not
there leaves its separator to the next one, missing numbers are zero, and the rest of the text is
build metadata. Digits of any script make a run, but only ASCII digits make a number. -/

namespace HostProbe.Version

open HostProbe.Text HostProbe.Decimal

def isSeparator (c : Char) : Bool := c == '.' || c == '_' || c == '-'

def digitRun? (s : List Char) : Option (List Char × List Char) :=
  match s.takeWhile isDecimalDigit with
  | [] => none
  | c :: run => some (c :: run, s.dropWhile isDecimalDigit)

def separatedRun (s : List Char) : Option (List Char) × List Char :=
  match s with
  | c :: cs =>
    if isSeparator c then
      match digitRun? cs with
      | some (run, rest) => (some run, rest)
      | none => (none, s)
    else (none, s)
  | [] => (none, s)

def moreIdentifiers (s : List Char) : List Char × List Char :=
  match s with
  | '.' :: cs =>
    match cs.takeWhile isIdentifierChar with
    | [] => ([], s)
    | c :: run =>
      let more := moreIdentifiers (cs.dropWhile isIdentifierChar)
      ('.' :: c :: run ++ more.1, more.2)
  | _ => ([], s)
termination_by s.length
decreasing_by
  have := (List.dropWhile_suffix (l := cs) isIdentifierChar).length_le
  rw [List.length_cons]
  omega

def separatedIdentifiers (s : List Char) : Option (List Char) × List Char :=
  match s with
  | c :: cs =>
    if isSeparator c then
      match cs.takeWhile isIdentifierChar with
      | [] => (none, s)
      | d :: run =>
        let more := moreIdentifiers (cs.dropWhile isIdentifierChar)
        (some (d :: run ++ more.1), more.2)
    else (none, s)
  | [] => (none, s)

structure Parts where
  major : List Char
  minor : Option (List Char)
  patch : Option (List Char)
  prerelease : Option (List Char)
  rest : List Char

def withoutV : List Char → List Char
  | 'v' :: s => s
  | 'V' :: s => s
  | s => s

def parts? (s : List Char) : Option Parts :=
  (digitRun? (withoutV s)).map fun (major, afterMajor) =>
    let minor := separatedRun afterMajor
    let patch := separatedRun minor.2
    let pre := separatedIdentifiers patch.2
    ⟨major, minor.1, patch.1, pre.1, pre.2⟩

def component? : Option (List Char) → Option UInt64
  | none => some 0
  | some run => readUInt64? run

def parseLenient? (s : List Char) : Option Version := do
  let parts ← parts? s
  let major ← component? (some parts.major)
  let minor ← component? parts.minor
  let patch ← component? parts.patch
  let build := trim parts.rest
  some ⟨major, minor, patch, parts.prerelease.map String.ofList,
    if build.isEmpty then none else some (String.ofList build)⟩

def parse (text : String) : Except Fault Version :=
  let s := trim text.toList
  match (parseStrict? s).orElse fun _ => parseLenient? s with
  | some v => .ok v
  | none => .error (.invalidVersion (String.ofList s))

end HostProbe.Version
