import HostProbe.Text.Utf8

/-! # Texts of bytes

Programs read and write bytes. Here a byte is written as the character with its number, so that the
bytes of a text can be handled like its letters. A text of the outside world is encoded on its way
in and decoded on its way out. -/

namespace HostProbe.Posix

def encoded (s : String) : List Char := s.toUTF8.toList.map fun b => Char.ofNat b.toNat

def decoded (s : List Char) : String := Text.decodeLossy (s.map fun c => c.toNat.toUInt8)

def lineOf (s : String) : List Char := s.toList ++ ['\n']

def isOctal (c : Char) : Bool := '0' ≤ c && c ≤ '7'

def isHex (c : Char) : Bool := c.isDigit || ('a' ≤ c.toLower && c.toLower ≤ 'f')

def digitsValue (base : Nat) (ds : List Char) : Nat :=
  ds.foldl (fun n c => n * base + (if c.isDigit then c.toNat - 48 else c.toLower.toNat - 87)) 0

def byteOf (n : Nat) : Char := Char.ofNat (n % 256)

def octalByte (width : Nat) (s : List Char) : Char × List Char :=
  let ds := (s.take width).takeWhile isOctal
  (byteOf (digitsValue 8 ds), s.drop ds.length)

theorem length_octalByte (width : Nat) (s : List Char) :
    (octalByte width s).2.length ≤ s.length := by
  rw [octalByte, List.length_drop]
  exact Nat.sub_le _ _

def hexByte (s : List Char) : List Char × List Char :=
  let ds := (s.take 2).takeWhile isHex
  if ds = [] then (['\\', 'x'], s) else ([byteOf (digitsValue 16 ds)], s.drop ds.length)

inductive EscapeDialect where
  | shell
  | echo
  | printf
  deriving DecidableEq, Repr

def namedEscape? : Char → Option Char
  | 'a' => some '\x07'
  | 'b' => some '\x08'
  | 'e' => some '\x1b'
  | 'f' => some '\x0c'
  | 'n' => some '\n'
  | 'r' => some '\r'
  | 't' => some '\t'
  | 'v' => some '\x0b'
  | '\\' => some '\\'
  | _ => none

def readEscape (dialect : EscapeDialect) (s : List Char) : List Char × List Char :=
  match s with
  | [] => (['\\'], [])
  | c :: rest =>
    match namedEscape? c with
    | some b => ([b], rest)
    | none =>
      if isOctal c then ([(octalByte 3 s).1], (octalByte 3 s).2)
      else if dialect ≠ .shell && c == 'x' then hexByte rest
      else if dialect = .printf && c == '"' then (['"'], rest)
      else (['\\', c], rest)

theorem length_readEscape (dialect : EscapeDialect) (s : List Char) :
    (readEscape dialect s).2.length ≤ s.length := by
  cases s with
  | nil => simp [readEscape]
  | cons c rest =>
    unfold readEscape
    split <;> grind [length_octalByte, hexByte]

/-- An argument with its escapes carried out, and whether output ends there. An escape with a
leading zero has three more octal digits. -/
def expandEscapes (dialect : EscapeDialect) : List Char → List Char × Bool
  | [] => ([], false)
  | '\\' :: 'c' :: _ => ([], true)
  | '\\' :: '0' :: s =>
    let (b, stop) := expandEscapes dialect (octalByte 3 s).2
    ((octalByte 3 s).1 :: b, stop)
  | '\\' :: s =>
    let (b, stop) := expandEscapes dialect (readEscape dialect s).2
    ((readEscape dialect s).1 ++ b, stop)
  | c :: s =>
    let (b, stop) := expandEscapes dialect s
    (c :: b, stop)
termination_by s => s.length
decreasing_by
  · have := length_octalByte 3 s
    grind
  · have := length_readEscape dialect s
    grind
  · grind

end HostProbe.Posix
