import HostProbe.Yaml.Scalar
import HostProbe.Yaml.Token.Cursor

/-! # Reading tags

A tag is a handle and a text after it, or a whole text between angle brackets. Its characters stand
for their bytes, and a percent escape stands for any byte; a zero byte ends the text. -/

namespace HostProbe.Yaml

def isNameChar (c : Char) : Bool := c.isAlphanum || c == '_' || c == '-'

def isTagChar (c : Char) : Bool :=
  isNameChar c || c ∈ [';', '/', '?', ':', '@', '&', '=', '+', '$', '.', '!', '~', '*', '\x27',
    '(', ')']

def percentByte? : List Char → Option (UInt8 × List Char)
  | '%' :: a :: b :: rest => (digitsIn? 16 [a, b]).map fun n => (n.toUInt8, rest)
  | _ => none

def followingBytes? (b : UInt8) : Option Nat :=
  if b &&& 0x80 = 0 then some 0
  else if b &&& 0xE0 = 0xC0 then some 1
  else if b &&& 0xF0 = 0xE0 then some 2
  else if b &&& 0xF8 = 0xF0 then some 3
  else none

def percentTail? : Nat → List Char → Option (List UInt8 × List Char)
  | 0, s => some ([], s)
  | n + 1, s => do
    let (b, s) ← percentByte? s
    if b &&& 0xC0 = 0x80 then
      let (bs, s) ← percentTail? n s
      some (b :: bs, s)
    else none

def percentBytes? (s : List Char) : Option (List UInt8 × List Char) := do
  let (b, s) ← percentByte? s
  let n ← followingBytes? b
  let (bs, s) ← percentTail? n s
  some (b :: bs, s)

def tagBytes (verbatim : Bool) : Nat → List Char → Option (List UInt8 × List Char)
  | 0, s => some ([], s)
  | fuel + 1, s =>
    match s with
    | [] => some ([], [])
    | c :: rest =>
      if c == '%' then do
        let (bytes, rest) ← percentBytes? s
        let (more, rest) ← tagBytes verbatim fuel rest
        some (bytes ++ more, rest)
      else if isTagChar c || (verbatim && (c == ',' || c == '[' || c == ']')) then do
        let (more, rest) ← tagBytes verbatim fuel rest
        some (c.toNat.toUInt8 :: more, rest)
      else some ([], s)

def untilZero (bytes : List UInt8) : List UInt8 := bytes.takeWhile (· ≠ 0)

def tagText? (verbatim : Bool) (s : List Char) : Option (List UInt8 × List Char) :=
  match tagBytes verbatim (s.length + 1) s with
  | some (b :: bytes, rest) => some (untilZero (b :: bytes), rest)
  | _ => none

abbrev TagParts := String × List UInt8

def tagParts? (s : List Char) : Option (TagParts × List Char) :=
  match s with
  | '!' :: '<' :: r =>
    match tagText? true r with
    | some (text, '>' :: rest) => some (("", text), rest)
    | _ => none
  | '!' :: r =>
    let inner := r.takeWhile isNameChar
    match r.dropWhile isNameChar with
    | '!' :: rest =>
      (tagText? false rest).map fun (text, rest) =>
        ((String.ofList ('!' :: inner ++ ['!']), text), rest)
    | rest => do
      let (bytes, rest) ← tagBytes false (rest.length + 1) rest
      let text := untilZero (inner.map (·.toNat.toUInt8) ++ bytes)
      some (if text.isEmpty then ("", [0x21]) else ("!", text), rest)
  | _ => none

end HostProbe.Yaml
