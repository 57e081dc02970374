import HostProbe.Text.Blank
import HostProbe.Yaml.Printer

/-! # Laying one document over another

Mappings merge key by key, at any depth. A bare null in the overlay keeps what is there; any other
value replaces it. Where a mapping and something that is neither a mapping nor null replace each
other, the path of keys is reported as a conflict. -/

namespace HostProbe.Yaml

open HostProbe.Text

abbrev Merged := Value × List (List Value)

def conflicts (base overlay : Value) : Bool :=
  base.isMapping != overlay.isMapping && !base.isNull

mutual

def mergeFrom (path : List Value) (base overlay : Value) : Merged :=
  match base, overlay with
  | .mapping bs, .mapping os =>
    let (es, warnings) := mergeEntries path bs os
    (.mapping es, warnings)
  | base, .null => (base, [])
  | base, overlay => (overlay, if conflicts base overlay then [path] else [])

def mergeEntries (path : List Value) (base : List (Value × Value)) :
    List (Value × Value) → Entries × List (List Value)
  | [] => (base, [])
  | (key, value) :: rest =>
    match Entries.find? key base with
    | some existing =>
      let (merged, warnings) := mergeFrom (path ++ [key]) existing value
      let (es, more) := mergeEntries path (Entries.replace key merged base) rest
      (es, warnings ++ more)
    | none => mergeEntries path (base ++ [(key, value)]) rest

end

def merge (base overlay : Value) : Merged := mergeFrom [] base overlay

def mergeAll (base : Value) (overlays : List Value) : Merged :=
  overlays.foldl (fun done overlay =>
    let (v, more) := merge done.1 overlay
    (v, done.2 ++ more)) (base, [])

def keyText : Value → String
  | .text s => s
  | v => trimmed (v.print?.getD "")

def pathText (path : List Value) : String :=
  let text := path.foldl
    (fun parent key => if parent.isEmpty then keyText key else parent ++ "." ++ keyText key) ""
  if text.isEmpty then "<root>" else text

end HostProbe.Yaml
