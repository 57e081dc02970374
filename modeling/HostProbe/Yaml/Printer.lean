import HostProbe.Decimal.Shortest
import HostProbe.Yaml.Page
import HostProbe.Yaml.Style

/-! # The text of a value

A value is written as a block: an entry or item a line, two columns further in for what is inside.
The items of a list below a key stand in the column of the key. A key stands before its colon if it
takes a line and is short; any other key has a mark of its own.

A mapping with a single entry looks like a value under a tag. If its key is such a mapping or is
tagged, it cannot be told apart and has no text. -/

namespace HostProbe.Yaml

open HostProbe.Decimal

namespace Value

def isSingleEntry : Value → Bool
  | .tagged _ _ => true
  | .mapping [_] => true
  | _ => false

mutual

def hasText : Value → Bool
  | .list items => itemsHaveText items
  | .mapping [(k, v)] => !k.isSingleEntry && k.hasText && v.hasText
  | .mapping entries => entriesHaveText entries
  | .tagged _ (.mapping entries) => entriesHaveText entries
  | .tagged _ v => v.hasText
  | _ => true

def itemsHaveText : List Value → Bool
  | [] => true
  | v :: vs => v.hasText && itemsHaveText vs

def entriesHaveText : List (Value × Value) → Bool
  | [] => true
  | (k, v) :: es => k.hasText && v.hasText && entriesHaveText es

end

end Value

def floatText (bits : UInt64) : String :=
  let x := Float.ofBits bits
  if x.isNaN then ".nan"
  else if x.isInf then if bits = 0x7FF0000000000000 then ".inf" else "-.inf"
  else shortestText x

def plainText? : Value → Option String
  | .null => some "null"
  | .bool b => some (if b then "true" else "false")
  | .int n => some (toString n)
  | .float bits => some (floatText bits)
  | _ => none

def emptyMarks? : Value → Option String
  | .list [] => some "[]"
  | .mapping [] => some "\x7b\x7d"
  | _ => none

def lineLength? : Value → Option Nat
  | .text s => if s.toList.any isLineBreak then none else some s.utf8ByteSize
  | .tagged name v => (lineLength? v).map (· + (if name.startsWith "!" then 0 else 1) +
      name.utf8ByteSize)
  | v => match plainText? v with
    | some s => some s.utf8ByteSize
    | none => (emptyMarks? v).map fun _ => 0

def isSimpleKey (v : Value) : Bool := (lineLength? v).any (· ≤ 128)

/-- A place in the tree: the column of the block around it, none at the root, and whether it belongs
to an entry of a mapping. -/
structure Place where
  column : Option Nat
  inMapping : Bool

namespace Place

def entryColumn (p : Place) : Nat := (p.column.map (· + 2)).getD 0

def itemColumn (p : Place) (page : Page) : Nat :=
  match p.column with
  | some n => if p.inMapping ∧ !page.bare then n else n + 2
  | none => 0

def lineColumn (p : Place) : Nat := (p.column.map (· + 2)).getD 2

end Place

namespace Page

def writeText (p : Page) (column : Nat) (s : String) : Page :=
  match Style.of s with
  | .plain => (p.space.puts s).word
  | .single =>
    let doubled := s.toList.flatMap fun c => if c = '\x27' then [c, c] else [c]
    let (p, broken) := (p.space.mark "'").lines column false doubled
    (if broken then p.startAt column else p).mark "'"
  | .double => ((p.space.mark "\"").puts (escaped s)).mark "\""
  | .literal =>
    let p := (p.space.mark ("|" ++ blockHints s.toList)).lineBreak '\n'
    ({ p with spaced := true, bare := true }.lines column true s.toList).1

end Page

mutual

def write (place : Place) (page : Page) : Value → Page
  | .tagged name v => write place (page.space.mark (tagText name)) v
  | .text s => page.writeText place.lineColumn s
  | .list (v :: vs) =>
    let column := place.itemColumn page
    writeItems column page (v :: vs)
  | .mapping (e :: es) => writeEntries place.entryColumn page (e :: es)
  | v => page.space.mark ((plainText? v <|> emptyMarks? v).getD "")

def writeItems (column : Nat) (page : Page) : List Value → Page
  | [] => page
  | v :: vs =>
    writeItems column (write ⟨some column, false⟩ ((page.startAt column).blockMark "-") v) vs

def writeEntries (column : Nat) (page : Page) : List (Value × Value) → Page
  | [] => page
  | (k, v) :: es =>
    let page := page.startAt column
    let place : Place := ⟨some column, true⟩
    let page := if isSimpleKey k then (write place page k).mark ":"
      else
        let page := write place (page.blockMark "?") k
        (page.startAt column).blockMark ":"
    writeEntries column (write place page v) es

end

def Value.print? (v : Value) : Option String :=
  if v.hasText then some (write ⟨none, false⟩ .blank v).text else none

end HostProbe.Yaml
