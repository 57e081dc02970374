import HostProbe.Yaml.Token.Basic
import HostProbe.Yaml.Token.Scalar
import HostProbe.Yaml.Token.Tag

/-! # From text to tokens

The scanner keeps the indentation of the open blocks. A key without a mark shows only at the colon
after it; so the scanner remembers for each open collection where a key may have begun, and puts the
token of the key there when the colon comes. Such a key has to end on its line and within 1024
bytes. -/

namespace HostProbe.Yaml

structure KeyStart where
  needed : Bool
  token : Nat
  line : Nat
  column : Nat
  index : Nat
  deriving Inhabited

structure Scanner where
  cursor : Cursor
  tokens : List Token
  flow : Nat
  indent : Int
  outer : List Int
  keyAllowed : Bool
  keys : List (Option KeyStart)
  deriving Inhabited

namespace Scanner

def start (s : List Char) : Scanner := ⟨.start s, [], 0, -1, [], true, [none]⟩

def push (s : Scanner) (t : Token) : Scanner := { s with tokens := s.tokens ++ [t] }

def mark (s : Scanner) (t : Token) (n : Nat) : Scanner :=
  { s with tokens := s.tokens ++ [t], cursor := s.cursor.advance n }

def closeBlocks (s : Scanner) (column : Int) : Scanner :=
  if s.flow ≠ 0 then s else go s s.outer
where
  go (s : Scanner) : List Int → Scanner
    | [] => s
    | i :: rest =>
      if column < s.indent then
        go { s with tokens := s.tokens ++ [.blockEnd], indent := i, outer := rest } rest
      else s

def openBlock (s : Scanner) (column : Int) (place : Option Nat) (t : Token) : Scanner :=
  if s.flow = 0 ∧ s.indent < column then
    { s with
      outer := s.indent :: s.outer
      indent := column
      tokens := match place with
        | some n => s.tokens.take n ++ [t] ++ s.tokens.drop n
        | none => s.tokens ++ [t] }
  else s

def fresh (s : Scanner) (k : KeyStart) : Bool :=
  k.line == s.cursor.line && decide (s.cursor.index ≤ k.index + 1024)

def dropStale (s : Scanner) : Option Scanner := do
  let keys ← s.keys.mapM fun
    | none => some none
    | some k => if s.fresh k then some (some k) else if k.needed then none else some none
  some { s with keys }

def noKey (s : Scanner) : Option Scanner :=
  match s.keys with
  | some k :: rest => if k.needed then none else some { s with keys := none :: rest }
  | _ => some s

def mayBeKey (s : Scanner) : Option Scanner :=
  if s.keyAllowed then do
    let s ← s.noKey
    let k : KeyStart := ⟨s.flow = 0 ∧ s.indent = s.cursor.column, s.tokens.length, s.cursor.line,
      s.cursor.column, s.cursor.index⟩
    some { s with keys := some k :: s.keys.drop 1 }
  else some s

def skipGap : Nat → Scanner → Scanner
  | 0, s => s
  | fuel + 1, s =>
    let tabs := s.flow ≠ 0 || !s.keyAllowed
    let c := s.cursor
    let c := if c.column == 0 && c.peek == some '\ufeff' then c.advance 1 else c
    let c := c.skipWhile fun ch => ch == ' ' || (tabs && ch == '\t')
    let c := if c.peek == some '#' then c.skipLine else c
    if c.peek.any isLineBreak then
      skipGap fuel { s with cursor := c.skipBreak, keyAllowed := s.keyAllowed || s.flow = 0 }
    else { s with cursor := c }

def directive (s : Scanner) : Option Scanner := do
  let s ← (s.closeBlocks (-1)).noKey
  let s := { s with keyAllowed := false }
  let (name, c) := (s.cursor.advance 1).takeWhile isNameChar
  if name.isEmpty || !endsToken c.peek then none
  else
    let c := c.skipWhile isGap
    let (token, c) ← match String.ofList name with
      | "YAML" =>
        let (major, c) := c.takeWhile Char.isDigit
        if c.peek == some '.' then
          let (minor, c) := (c.advance 1).takeWhile Char.isDigit
          if major.isEmpty || minor.isEmpty || 9 < major.length || 9 < minor.length then none
          else some (Token.version (Decimal.ofDigits major) (Decimal.ofDigits minor), c)
        else none
      | "TAG" =>
        if c.peek == some '!' then
          let (inner, c) := (c.advance 1).takeWhile isNameChar
          let (handle, c) := if c.peek == some '!' then ('!' :: inner ++ ['!'], c.advance 1)
            else ('!' :: inner, c)
          if handle != ['!'] && handle.getLast? != some '!' then none
          else if !c.peek.any isGap then none
          else
            let c := c.skipWhile isGap
            match tagText? true c.rest with
            | none => none
            | some (text, rest) =>
              let c := c.advance (c.rest.length - rest.length)
              if endsToken c.peek then some (Token.tagHandle (String.ofList handle) text, c)
              else none
        else none
      | _ => none
    let c := c.skipWhile isGap
    let c := if c.peek == some '#' then c.skipLine else c
    if endsLine c.peek then some { s.push token with cursor := c.skipBreak } else none

def boundary (s : Scanner) (t : Token) : Option Scanner := do
  let s ← (s.closeBlocks (-1)).noKey
  some ({ s with keyAllowed := false }.mark t 3)

def openFlow (s : Scanner) (t : Token) : Option Scanner := do
  let s ← s.mayBeKey
  some ({ s with keys := none :: s.keys, flow := s.flow + 1, keyAllowed := true }.mark t 1)

def closeFlow (s : Scanner) (t : Token) : Option Scanner := do
  let s ← s.noKey
  let s := if s.flow = 0 then s else { s with keys := s.keys.drop 1, flow := s.flow - 1 }
  some ({ s with keyAllowed := false }.mark t 1)

def flowEntry (s : Scanner) : Option Scanner := do
  let s ← s.noKey
  some ({ s with keyAllowed := true }.mark .flowEntry 1)

def blockEntry (s : Scanner) : Option Scanner :=
  if s.flow = 0 ∧ !s.keyAllowed then none
  else do
    let s ← (s.openBlock s.cursor.column none .blockListStart).noKey
    some ({ s with keyAllowed := true }.mark .blockEntry 1)

def keyMark (s : Scanner) : Option Scanner :=
  if s.flow = 0 ∧ !s.keyAllowed then none
  else do
    let s ← (s.openBlock s.cursor.column none .blockMappingStart).noKey
    some ({ s with keyAllowed := s.flow = 0 }.mark .key 1)

def valueMark (s : Scanner) : Option Scanner :=
  match s.keys with
  | some k :: rest =>
    let s := { s with
      tokens := s.tokens.take k.token ++ [Token.key] ++ s.tokens.drop k.token
      keys := none :: rest }
    let s := s.openBlock k.column (some k.token) .blockMappingStart
    some ({ s with keyAllowed := false }.mark .value 1)
  | _ =>
    if s.flow = 0 ∧ !s.keyAllowed then none
    else
      let s := s.openBlock s.cursor.column none .blockMappingStart
      some ({ s with keyAllowed := s.flow = 0 }.mark .value 1)

def endsName (o : Option Char) : Bool :=
  endsToken o || o.any fun c => c ∈ ['?', ':', ',', ']', '\x7d', '%', '@', '\x60']

def named (s : Scanner) (make : String → Token) : Option Scanner := do
  let s ← s.mayBeKey
  let (name, c) := (s.cursor.advance 1).takeWhile isNameChar
  if name.isEmpty || !endsName c.peek then none
  else some { s with
    cursor := c, keyAllowed := false, tokens := s.tokens ++ [make (String.ofList name)] }

def tag (s : Scanner) : Option Scanner := do
  let s ← s.mayBeKey
  let ((handle, text), rest) ← tagParts? s.cursor.rest
  let c := s.cursor.advance (s.cursor.rest.length - rest.length)
  if endsToken c.peek || (s.flow ≠ 0 && c.peek == some ',') then
    some { s with cursor := c, keyAllowed := false, tokens := s.tokens ++ [.tag handle text] }
  else none

def block (s : Scanner) (literal : Bool) : Option Scanner := do
  let s ← s.noKey
  let (c, text) ← blockScalar literal s.indent (s.cursor.advance 1)
  some { s with
    cursor := c, keyAllowed := true, tokens := s.tokens ++ [.scalar false (String.ofList text)] }

def quoted (s : Scanner) (single : Bool) : Option Scanner := do
  let s ← s.mayBeKey
  let (c, text) ← quotedRest single (s.cursor.rest.length + 1) (s.cursor.advance 1) []
  some { s with
    cursor := c, keyAllowed := false, tokens := s.tokens ++ [.scalar false (String.ofList text)] }

def plain (s : Scanner) : Option Scanner := do
  let s ← s.mayBeKey
  let (c, gap, text) ←
    plainRest (s.flow ≠ 0) (s.indent + 1) (s.cursor.rest.length + 1) s.cursor .none []
  some { s with
    cursor := c, keyAllowed := gap.broken
    tokens := s.tokens ++ [.scalar true (String.ofList text)] }

def isIndicator (c : Char) : Bool :=
  c ∈ ['-', '?', ':', ',', '[', ']', '\x7b', '\x7d', '#', '&', '*', '!', '|', '>', '\x27', '"',
    '%', '@', '\x60']

def token (s : Scanner) (c : Char) : Option Scanner :=
  let next := s.cursor.peekAt 1
  let inFlow := s.flow ≠ 0
  if s.cursor.column = 0 ∧ c = '%' then s.directive
  else if s.cursor.atMarks '-' then s.boundary .documentStart
  else if s.cursor.atMarks '.' then s.boundary .documentEnd
  else if c = '[' then s.openFlow .flowListStart
  else if c = '\x7b' then s.openFlow .flowMappingStart
  else if c = ']' then s.closeFlow .flowListEnd
  else if c = '\x7d' then s.closeFlow .flowMappingEnd
  else if c = ',' then s.flowEntry
  else if c = '-' ∧ endsToken next then s.blockEntry
  else if c = '?' ∧ (inFlow ∨ endsToken next) then s.keyMark
  else if c = ':' ∧ (inFlow ∨ endsToken next) then s.valueMark
  else if c = '*' then s.named .alias
  else if c = '&' then s.named .anchor
  else if c = '!' then s.tag
  else if c = '|' ∧ ¬inFlow then s.block true
  else if c = '>' ∧ ¬inFlow then s.block false
  else if c = '\x27' then s.quoted true
  else if c = '"' then s.quoted false
  else if !(isIndicator c || endsToken (some c)) || (c = '-' ∧ !next.any isGap) ||
      (¬inFlow ∧ (c = '?' ∨ c = ':') ∧ !endsToken next) then s.plain
  else none

def finish (s : Scanner) : Option Scanner := (s.closeBlocks (-1)).noKey

def run : Nat → Scanner → Option (List Token)
  | 0, _ => none
  | fuel + 1, s =>
    match (skipGap (s.cursor.rest.length + 1) s).dropStale with
    | none => none
    | some s =>
      match s.cursor.peek with
      | none => s.finish.map (·.tokens)
      | some c =>
        match (s.closeBlocks s.cursor.column).token c with
        | none => none
        | some s => run fuel s

end Scanner

def isDocumentChar (c : Char) : Bool :=
  let n := c.toNat
  n = 0x9 || n = 0xA || n = 0xD || (0x20 ≤ n && n ≤ 0x7E) || n = 0x85 ||
    (0xA0 ≤ n && n ≤ 0xD7FF) || (0xE000 ≤ n && n ≤ 0xFFFD) || 0x10000 ≤ n

def tokens? (text : String) : Option (List Token) :=
  let s := text.toList
  if s.all isDocumentChar then Scanner.run (s.length + 1) (.start s) else none

end HostProbe.Yaml
