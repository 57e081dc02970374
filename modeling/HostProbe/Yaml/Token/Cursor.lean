/-! # A place in a document

The text that is still to be read, with its line and column. -/

namespace HostProbe.Yaml

def isLineBreak (c : Char) : Bool :=
  c == '\n' || c == '\r' || c == '\x85' || c == '\u2028' || c == '\u2029'

def isGap (c : Char) : Bool := c == ' ' || c == '\t'

def endsToken : Option Char → Bool
  | none => true
  | some c => isGap c || isLineBreak c

def endsLine : Option Char → Bool
  | none => true
  | some c => isLineBreak c

def byteLength (s : List Char) : Nat := s.foldl (fun n c => n + c.utf8Size) 0

structure Cursor where
  rest : List Char
  line : Nat
  column : Nat
  index : Nat
  deriving Inhabited

namespace Cursor

def start (s : List Char) : Cursor := ⟨s, 0, 0, 0⟩

def peek (c : Cursor) : Option Char := c.rest.head?

def peekAt (c : Cursor) (n : Nat) : Option Char := (c.rest.drop n).head?

def advance (c : Cursor) (n : Nat) : Cursor :=
  ⟨c.rest.drop n, c.line, c.column + n, c.index + byteLength (c.rest.take n)⟩

def takeWhile (p : Char → Bool) (c : Cursor) : List Char × Cursor :=
  (c.rest.takeWhile p, c.advance (c.rest.takeWhile p).length)

def skipWhile (p : Char → Bool) (c : Cursor) : Cursor := (c.takeWhile p).2

def skipLine (c : Cursor) : Cursor := c.skipWhile (!isLineBreak ·)

def takeBreak (c : Cursor) : List Char × Cursor :=
  match c.rest with
  | '\r' :: '\n' :: r => (['\n'], ⟨r, c.line + 1, 0, c.index + 2⟩)
  | b :: r =>
    (if b == '\u2028' || b == '\u2029' then [b] else ['\n'], ⟨r, c.line + 1, 0, c.index + b.utf8Size⟩)
  | [] => ([], c)

def skipBreak (c : Cursor) : Cursor := c.takeBreak.2

def atMarks (c : Cursor) (mark : Char) : Bool :=
  c.column == 0 && c.peek == some mark && c.peekAt 1 == some mark && c.peekAt 2 == some mark &&
    endsToken (c.peekAt 3)

def atBoundary (c : Cursor) : Bool := c.atMarks '-' || c.atMarks '.'

end Cursor

end HostProbe.Yaml
