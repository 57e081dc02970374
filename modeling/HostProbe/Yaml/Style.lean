import HostProbe.Yaml.Scalar
import HostProbe.Yaml.Token.Cursor

/-! # How a text may be written

A text stands without quotes where it reads back as itself, else between single quotes if these can
hold it, and between double quotes otherwise. A text with line breaks is a literal block if one can
hold it. -/

namespace HostProbe.Yaml

open HostProbe.Decimal

def isAmbiguous (s : String) : Bool :=
  hasLeadingZero s.toList ||
    match plainValue? s with
    | some (.text _) => false
    | _ => true

def isWritable (c : Char) : Bool :=
  let n := c.toNat
  n = 0xA || (0x20 ≤ n && n ≤ 0x7E) || (0xA0 ≤ n && n ≤ 0xD7FF) ||
    (0xE000 ≤ n && n ≤ 0xFFFD && n ≠ 0xFEFF) || 0x10000 ≤ n

def marksInside : Option Char → List Char → Bool
  | _, [] => false
  | before, c :: s =>
    (c == ':' && endsToken s.head?) || (c == '#' && endsToken before) || marksInside (some c) s

def marksAtStart (s : List Char) : Bool :=
  ['-', '-', '-'].isPrefixOf s || ['.', '.', '.'].isPrefixOf s ||
    match s with
    | [] => false
    | c :: rest =>
      c ∈ ['#', ',', '[', ']', '\x7b', '\x7d', '&', '*', '!', '|', '>', '\x27', '"', '%', '@',
        '\x60'] || (c ∈ ['?', ':', '-'] && endsToken rest.head?)

def meets (p q : Char → Bool) : List Char → Bool
  | a :: b :: s => (p a && q b) || meets p q (b :: s)
  | _ => false

def plainAllowed (s : List Char) : Bool :=
  s.all (fun c => isWritable c && !isLineBreak c) && s.head? != some ' ' &&
    s.getLast? != some ' ' && !marksAtStart s && !marksInside s.head? (s.drop 1)

def singleAllowed (s : List Char) : Bool :=
  s.all isWritable && !meets (· == ' ') isLineBreak s && !meets isLineBreak (· == ' ') s

def blockAllowed (s : List Char) : Bool :=
  s.all isWritable && !meets (· == ' ') isLineBreak s && s.getLast? != some ' '

inductive Style where
  | plain
  | single
  | double
  | literal
  deriving DecidableEq, Repr

def Style.of (s : String) : Style :=
  if s.toList.contains '\n' then if blockAllowed s.toList then .literal else .double
  else if !isAmbiguous s && plainAllowed s.toList then .plain
  else if singleAllowed s.toList then .single
  else .double

def hexDigits (width n : Nat) : String :=
  padLeft width (String.ofList ((Nat.toDigits 16 n).map Char.toUpper))

def escapeOf (c : Char) : String :=
  match c with
  | '\x00' => "\\0"
  | '\x07' => "\\a"
  | '\x08' => "\\b"
  | '\t' => "\\t"
  | '\n' => "\\n"
  | '\x0b' => "\\v"
  | '\x0c' => "\\f"
  | '\r' => "\\r"
  | '\x1b' => "\\e"
  | '"' => "\\\""
  | '\\' => "\\\\"
  | '\x85' => "\\N"
  | '\u2028' => "\\L"
  | '\u2029' => "\\P"
  | c => if c.toNat ≤ 0xFF then "\\x" ++ hexDigits 2 c.toNat
    else if c.toNat ≤ 0xFFFF then "\\u" ++ hexDigits 4 c.toNat
    else "\\U" ++ hexDigits 8 c.toNat

def escaped (s : String) : String :=
  String.join (s.toList.map fun c =>
    if isWritable c && !isLineBreak c && c != '"' && c != '\\' then String.singleton c
    else escapeOf c)

def blockHints (s : List Char) : String :=
  (if s.head?.any fun c => c == ' ' || isLineBreak c then "2" else "") ++
    match s.reverse with
    | [] => "-"
    | [c] => if isLineBreak c then "+" else "-"
    | c :: d :: _ => if !isLineBreak c then "-" else if isLineBreak d then "+" else ""

def isPlainTagChar (c : Char) : Bool :=
  c.isAlphanum || c ∈ ['-', '_', ';', '/', '?', ':', '@', '&', '=', '+', '$', ',', '.', '~', '*',
    '\x27', '(', ')', '[', ']']

def tagEscaped (s : List Char) : String :=
  String.join (s.map fun c =>
    if isPlainTagChar c then String.singleton c
    else String.join ((String.utf8EncodeChar c).map fun b => "%" ++ hexDigits 2 b.toNat))

def tagText (name : String) : String :=
  match name.toList with
  | ['!'] => "!<" ++ tagEscaped ['!'] ++ ">"
  | '!' :: rest => "!" ++ tagEscaped rest
  | rest => "!" ++ tagEscaped rest

end HostProbe.Yaml
