import HostProbe.Yaml.Scalar
import HostProbe.Yaml.Token.Cursor

/-! # Reading the text of scalars

Between the words of a scalar, blanks are kept and line breaks are folded: one break becomes a
space, further ones stand for themselves. A block scalar keeps its lines or folds them, as its mark
says. The reading functions are given as much fuel as there are characters. -/

namespace HostProbe.Yaml

structure WordGap where
  broken : Bool
  blanks : List Char
  firstBreak : List Char
  moreBreaks : List Char

namespace WordGap

def none : WordGap := ⟨false, [], [], []⟩

def escaped : WordGap := ⟨true, [], [], []⟩

def folded (g : WordGap) : List Char :=
  if g.broken then
    if g.firstBreak = ['\n'] then if g.moreBreaks.isEmpty then [' '] else g.moreBreaks
    else g.firstBreak ++ g.moreBreaks
  else g.blanks

def read (tabLimit : Int) : Nat → Cursor → WordGap → Option (Cursor × WordGap)
  | 0, c, g => some (c, g)
  | fuel + 1, c, g =>
    match c.peek with
    | some ch =>
      if isGap ch then
        if g.broken && ch == '\t' && (c.column : Int) < tabLimit then Option.none
        else read tabLimit fuel (c.advance 1)
          (if g.broken then g else { g with blanks := g.blanks ++ [ch] })
      else if isLineBreak ch then
        let (br, c) := c.takeBreak
        read tabLimit fuel c
          (if g.broken then { g with moreBreaks := g.moreBreaks ++ br } else ⟨true, [], br, []⟩)
      else some (c, g)
    | Option.none => some (c, g)

end WordGap

def simpleEscape? : Char → Option Char
  | '0' => some '\x00'
  | 'a' => some '\x07'
  | 'b' => some '\x08'
  | 't' => some '\t'
  | '\t' => some '\t'
  | 'n' => some '\n'
  | 'v' => some '\x0b'
  | 'f' => some '\x0c'
  | 'r' => some '\r'
  | 'e' => some '\x1b'
  | ' ' => some ' '
  | '"' => some '"'
  | '/' => some '/'
  | '\\' => some '\\'
  | 'N' => some '\x85'
  | '_' => some '\xa0'
  | 'L' => some '\u2028'
  | 'P' => some '\u2029'
  | _ => none

def escapeWidth? : Char → Option Nat
  | 'x' => some 2
  | 'u' => some 4
  | 'U' => some 8
  | _ => none

def charOf? (n : Nat) : Option Char :=
  if n.isValidChar then some (Char.ofNat n) else none

def escape? (s : List Char) : Option (Char × Nat) :=
  match s with
  | [] => none
  | c :: rest =>
    match simpleEscape? c with
    | some d => some (d, 1)
    | none => do
      let width ← escapeWidth? c
      let digits := rest.take width
      if digits.length < width then none
      else
        let code ← digitsIn? 16 digits
        let d ← charOf? code
        some (d, width + 1)

/-- A run of a quoted scalar without blanks and line breaks, added to `acc`, and whether it ended
with an escaped line break. -/
def quotedRun (single : Bool) : Nat → Cursor → List Char → Option (Cursor × List Char × Bool)
  | 0, c, acc => some (c, acc, false)
  | fuel + 1, c, acc =>
    match c.peek with
    | none => some (c, acc, false)
    | some ch =>
      if endsToken (some ch) then some (c, acc, false)
      else if single then
        if ch == '\x27' then
          if c.peekAt 1 == some '\x27' then quotedRun single fuel (c.advance 2) (acc ++ ['\x27'])
          else some (c, acc, false)
        else quotedRun single fuel (c.advance 1) (acc ++ [ch])
      else if ch == '"' then some (c, acc, false)
      else if ch == '\\' then
        if (c.peekAt 1).any isLineBreak then some ((c.advance 1).skipBreak, acc, true)
        else match escape? (c.rest.drop 1) with
          | some (d, n) => quotedRun single fuel (c.advance (n + 1)) (acc ++ [d])
          | none => none
      else quotedRun single fuel (c.advance 1) (acc ++ [ch])

def quotedRest (single : Bool) : Nat → Cursor → List Char → Option (Cursor × List Char)
  | 0, _, _ => none
  | fuel + 1, c, acc =>
    if c.atBoundary || c.peek.isNone then none
    else do
      let (c, acc, escapedBreak) ← quotedRun single (c.rest.length + 1) c acc
      if c.peek == some (if single then '\x27' else '"') then some (c.advance 1, acc)
      else
        let (c, gap) ← WordGap.read 0 (c.rest.length + 1) c
          (if escapedBreak then .escaped else .none)
        quotedRest single fuel c (acc ++ gap.folded)

def isFlowMark (c : Char) : Bool := c == ',' || c == '[' || c == ']' || c == '\x7b' || c == '\x7d'

/-- A run of a plain scalar without blanks and line breaks, and what follows it; a colon before a
mark of a collection is refused. -/
def plainRun (flow : Bool) : List Char → Option (List Char × List Char)
  | [] => some ([], [])
  | c :: s =>
    if endsToken (some c) then some ([], c :: s)
    else if c == ':' && flow && (s.head?.any fun d => isFlowMark d || d == '?') then none
    else if (c == ':' && endsToken s.head?) || (flow && isFlowMark c) then some ([], c :: s)
    else (plainRun flow s).map fun (run, rest) => (c :: run, rest)

def plainRest (flow : Bool) (indent : Int) :
    Nat → Cursor → WordGap → List Char → Option (Cursor × WordGap × List Char)
  | 0, _, _, _ => none
  | fuel + 1, c, gap, acc =>
    if c.atBoundary || c.peek == some '#' then some (c, gap, acc)
    else do
      let (run, _) ← plainRun flow c.rest
      let acc := if run.isEmpty then acc else acc ++ gap.folded ++ run
      let after := c.advance run.length
      let gap := if run.isEmpty then gap else .none
      if after.peek.any fun ch => isGap ch || isLineBreak ch then
        let (c, gap) ← WordGap.read indent (after.rest.length + 1) after gap
        if !flow && (c.column : Int) < indent then some (c, gap, acc)
        else plainRest flow indent fuel c gap acc
      else some (after, gap, acc)

inductive Chomp where
  | strip
  | clip
  | keep
  deriving DecidableEq

def blockHeader (c : Cursor) : Option (Chomp × Option Nat × Cursor) :=
  let chomp? : Option Char → Option Chomp := fun
    | some '+' => some .keep
    | some '-' => some .strip
    | _ => none
  let digit? : Option Char → Option Nat := fun o => o.bind fun ch =>
    if ch.isDigit then some (ch.toNat - 48) else none
  let result := match chomp? c.peek, digit? c.peek with
    | some chomp, _ =>
      match digit? (c.peekAt 1) with
      | some n => (chomp, some n, c.advance 2)
      | none => (chomp, none, c.advance 1)
    | none, some n =>
      match chomp? (c.peekAt 1) with
      | some chomp => (chomp, some n, c.advance 2)
      | none => (.clip, some n, c.advance 1)
    | none, none => (.clip, none, c)
  if result.2.1 = some 0 then none else some result

/-- Blank lines of a block scalar: the place of the next line that is none, the breaks, and the
deepest column. Without an indentation yet, spaces count up to the text. -/
def blockBreaks (indent : Option Nat) :
    Nat → Cursor → List Char → Nat → Option (Cursor × List Char × Nat)
  | 0, c, breaks, deepest => some (c, breaks, deepest)
  | fuel + 1, c, breaks, deepest =>
    let spaces := (c.rest.takeWhile (· == ' ')).length
    let c := c.advance (match indent with
      | none => spaces
      | some n => min spaces (n - c.column))
    let deepest := max deepest c.column
    let left := match indent with
      | none => true
      | some n => c.column < n
    if left && c.peek == some '\t' then none
    else if c.peek.any isLineBreak then
      let (br, c) := c.takeBreak
      blockBreaks indent fuel c (breaks ++ br) deepest
    else some (c, breaks, deepest)

/-- The lines of a block scalar: `text` is what is read, `lastBreak` the break after it and `breaks`
the blank lines after that; `wasBlank` tells whether the last line began with a blank. -/
def blockLines (literal : Bool) (indent : Nat) :
    Nat → Cursor → (text lastBreak breaks : List Char) → (wasBlank : Bool) →
      Option (Cursor × List Char × List Char × List Char)
  | 0, _, _, _, _, _ => none
  | fuel + 1, c, text, lastBreak, breaks, wasBlank =>
    if c.column == indent && c.peek.isSome then
      let isBlank := c.peek.any isGap
      let lead :=
        if !literal && lastBreak == ['\n'] && !wasBlank && !isBlank then
          if breaks.isEmpty then [' '] else []
        else lastBreak
      let (line, c) := c.takeWhile (!isLineBreak ·)
      let (br, c) := c.takeBreak
      match blockBreaks (some indent) (c.rest.length + 1) c [] 0 with
      | none => none
      | some (c, more, _) =>
        blockLines literal indent fuel c (text ++ lead ++ breaks ++ line) br more isBlank
    else some (c, text, lastBreak, breaks)

def blockScalar (literal : Bool) (parent : Int) (c : Cursor) : Option (Cursor × List Char) := do
  let (chomp, extra, c) ← blockHeader c
  let c := c.skipWhile isGap
  let c := if c.peek == some '#' then c.skipLine else c
  if endsLine c.peek then
    let c := c.skipBreak
    let given := extra.map fun (n : Nat) => if 0 ≤ parent then (parent + (n : Int)).toNat else n
    let (c, breaks, deepest) ← blockBreaks given (c.rest.length + 1) c [] 0
    let indent := match given with
      | some n => n
      | none => max (max deepest (parent + 1).toNat) 1
    let (c, text, lastBreak, breaks) ←
      blockLines literal indent (c.rest.length + 1) c [] [] breaks false
    some (c, match chomp with
      | .strip => text
      | .clip => text ++ lastBreak
      | .keep => text ++ lastBreak ++ breaks)
  else none

end HostProbe.Yaml
