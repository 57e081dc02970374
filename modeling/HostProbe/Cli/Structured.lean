import HostProbe.Text.Blank

/-! # Structured output

Values for programs that read the output. They are written over several lines, with two spaces more
for each level; what is empty stays on its line. -/

namespace HostProbe.Cli

inductive Structured where
  | null
  | bool (b : Bool)
  | number (n : Nat)
  | text (s : String)
  | list (xs : List Structured)
  | record (fields : List (String × Structured))

namespace Structured

def ofOption : Option String → Structured
  | none => .null
  | some s => .text s

def hexDigit (n : Nat) : Char := Nat.digitChar n

def escape (c : Char) : List Char :=
  if c = '"' then ['\\', '"']
  else if c = '\\' then ['\\', '\\']
  else if c = '\n' then ['\\', 'n']
  else if c = '\r' then ['\\', 'r']
  else if c = '\t' then ['\\', 't']
  else if c = '\x08' then ['\\', 'b']
  else if c = '\x0c' then ['\\', 'f']
  else if c.toNat < 32 then
    ['\\', 'u', '0', '0', hexDigit (c.toNat / 16), hexDigit (c.toNat % 16)]
  else [c]

def quote (s : String) : String :=
  String.ofList (['"'] ++ s.toList.flatMap escape ++ ['"'])

def indent (level : Nat) : String := "\n" ++ String.ofList (List.replicate (2 * level) ' ')

def enclose (opening closing : String) (level : Nat) (items : List String) : String :=
  if items.isEmpty then opening ++ closing
  else opening ++ String.intercalate "," (items.map (indent (level + 1) ++ ·)) ++ indent level ++
    closing

mutual

def render (level : Nat) : Structured → String
  | .null => "null"
  | .bool b => if b then "true" else "false"
  | .number n => toString n
  | .text s => quote s
  | .list xs => enclose "[" "]" level (renderAll (level + 1) xs)
  | .record fields => enclose "\x7b" "\x7d" level (renderFields (level + 1) fields)

def renderAll (level : Nat) : List Structured → List String
  | [] => []
  | x :: xs => render level x :: renderAll level xs

def renderFields (level : Nat) : List (String × Structured) → List String
  | [] => []
  | (name, x) :: fields => (quote name ++ ": " ++ render level x) :: renderFields level fields

end

def pretty (x : Structured) : String := x.render 0

end Structured

end HostProbe.Cli
