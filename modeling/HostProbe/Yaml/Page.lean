import HostProbe.Yaml.Token.Cursor

/-! # A page of block text

Text that grows at its end, with the column that it has reached. A page knows whether a blank has to
be written before the next mark, and whether its last line holds only blanks and the marks of keys
and items: the first entry of a block may then stand on that line. -/

namespace HostProbe.Yaml

structure Page where
  text : String
  column : Nat
  spaced : Bool
  bare : Bool
  deriving Repr, Inhabited

namespace Page

def blank : Page := ⟨"", 0, true, true⟩

def put (p : Page) (c : Char) : Page := { p with text := p.text.push c, column := p.column + 1 }

def puts (p : Page) (s : String) : Page := s.toList.foldl put p

def lineBreak (p : Page) (c : Char) : Page := { p with text := p.text.push c, column := 0 }

def space (p : Page) : Page := if p.spaced then p else p.put ' '

def word (p : Page) : Page := { p with spaced := false, bare := false }

def mark (p : Page) (s : String) : Page := (p.puts s).word

def blockMark (p : Page) (s : String) : Page :=
  { p.space.puts s with spaced := false, bare := p.bare }

def startAt (p : Page) (column : Nat) : Page :=
  let p := if !p.bare || p.column > column || (p.column == column && !p.spaced) then
      p.lineBreak '\n' else p
  let p := p.puts (String.ofList (List.replicate (column - p.column) ' '))
  { p with spaced := true, bare := true }

/-- The characters of a scalar; a line of it starts in the given column. `broken` tells whether a
line break was just written. -/
def lines (p : Page) (column : Nat) : (broken : Bool) → List Char → Page × Bool
  | broken, [] => (p, broken)
  | broken, c :: s =>
    if isLineBreak c then { p.lineBreak c with bare := true }.lines column true s
    else { (if broken then p.startAt column else p).put c with bare := false }.lines column false s

end Page

end HostProbe.Yaml
