import HostProbe.Os.Basic

/-! # The os-release file

A line of the file assigns a value to a key; blank lines, comments and lines without an equals sign
do not count, and of several assignments to a key the last one does. The id decides the family, else
the first known word of the ids that the system is like. -/

namespace HostProbe.Os.Release

open HostProbe.Text

def unquoted (value : List Char) : List Char :=
  trimBy (· == '\x27') (trimBy (· == '"') (trim value))

def assignment? (line : List Char) : Option (List Char × List Char) :=
  match trim line with
  | [] => none
  | '#' :: _ => none
  | s => (splitOnce? ['='] s).map fun (key, value) => (trim key, unquoted value)

def assignments (content : String) : List (List Char × List Char) :=
  (lines content.toList).filterMap assignment?

def value? (fields : List (List Char × List Char)) (key : String) : Option String :=
  (fields.reverse.find? fun f => f.1 == key.toList).map fun f => String.ofList f.2

def family (id like : String) : OsFamily :=
  match (OsFamily.ofId? id).orElse fun _ => (wordsOf like).findSome? OsFamily.ofId? with
  | some f => f
  | none => .unknown

def nameOf (given : Option String) (id : String) : String :=
  match given with
  | some name => if name.isEmpty then fallback else name
  | none => fallback
where
  fallback := if id.isEmpty then "Unknown" else id

def versionOf : Option String → Version
  | none => noVersion
  | some text =>
    match Version.parse text with
    | .ok v => v
    | .error _ => noVersion

def classify (content : String) : Os :=
  let fields := assignments content
  let id := lowerCase ((value? fields "ID").getD "")
  let like := lowerCase ((value? fields "ID_LIKE").getD "")
  ⟨family id like, nameOf (value? fields "NAME") id, id, versionOf (value? fields "VERSION_ID")⟩

end HostProbe.Os.Release
