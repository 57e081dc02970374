import HostProbe.Text.Printable

/-! # Shown text

A text that goes into a message is shown with escapes for what a reader could not see or could
misread. There are two forms: between double quotes, and bare with both kinds of quote escaped. -/

namespace HostProbe.Text

structure Escaping where
  singleQuote : Bool
  doubleQuote : Bool
  extenders : Bool

def codePointEscape (c : Char) : List Char :=
  ['\\', 'u', '\x7b'] ++ Nat.toDigits 16 c.toNat ++ ['\x7d']

def escapeChar (e : Escaping) (c : Char) : List Char :=
  if c = '\x00' then ['\\', '0']
  else if c = '\t' then ['\\', 't']
  else if c = '\r' then ['\\', 'r']
  else if c = '\n' then ['\\', 'n']
  else if c = '\\' then ['\\', '\\']
  else if c = '"' then if e.doubleQuote then ['\\', '"'] else ['"']
  else if c = '\x27' then if e.singleQuote then ['\\', '\x27'] else ['\x27']
  else if (e.extenders && extendsGrapheme c) || !isPrintable c then codePointEscape c
  else [c]

def insideQuotes : Escaping := ⟨false, true, true⟩

def bareStart : Escaping := ⟨true, true, true⟩

def bareRest : Escaping := ⟨true, true, false⟩

def quoted (s : String) : String :=
  String.ofList (['"'] ++ s.toList.flatMap (escapeChar insideQuotes) ++ ['"'])

def bare (s : String) : String :=
  match s.toList with
  | [] => ""
  | c :: cs => String.ofList (escapeChar bareStart c ++ cs.flatMap (escapeChar bareRest))

def quotedList (xs : List String) : String :=
  "[" ++ String.intercalate ", " (xs.map quoted) ++ "]"

def quotedOption : Option String → String
  | none => "None"
  | some s => "Some(" ++ quoted s ++ ")"

end HostProbe.Text
