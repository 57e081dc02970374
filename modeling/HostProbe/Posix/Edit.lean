import HostProbe.Posix.Bytes
import HostProbe.Posix.Regex

/-! # Scripts that edit lines

A script is a list of commands, each with the lines that it applies to. Lines are read one by one
into a space, where the commands change them. -/

namespace HostProbe.Posix

inductive EditAddress where
  | line (n : Nat)
  | last
  | holding (r : Option Regex) (ignoreCase : Bool)
  | every (first step : Nat)

inductive EditRange where
  | all
  | one (a : EditAddress)
  | between (a b : EditAddress)
  | following (a : EditAddress) (n : Nat)

inductive ReplacementPart where
  | text (s : List Char)
  | group (n : Nat)
  | letters (upper : Option Bool) (all : Bool)

structure Substitution where
  pattern : Option Regex
  replacement : List ReplacementPart
  ignoreCase : Bool := false
  everywhere : Bool := false
  first : Nat := 1
  prints : Bool := false

inductive EditAction where
  | opening
  | closing
  | label (name : List Char)
  | substitute (s : Substitution)
  | transliterate (table : List (Char × Char))
  | jump (name : List Char)
  | jumpIf (replaced : Bool) (name : List Char)
  | text (place : Char) (s : List Char)
  | quit (prints : Bool) (status : Nat)
  | plain (c : Char)

structure EditCommand where
  range : EditRange := .all
  negated : Bool := false
  action : EditAction

namespace EditCommand

abbrev Reader := ExceptT String (StateM (List Char))

def skipBlanks : Reader Unit := modify fun s => s.dropWhile fun c => c == ' ' || c == '\t'

def skipEnds : Reader Unit := modify fun s => s.dropWhile fun c => isGap c || c == ';'
where
  isGap (c : Char) : Bool := c == ' ' || (9 ≤ c.toNat && c.toNat ≤ 13)

/-- A text up to a mark that no backslash precedes, without the mark; `none` if there is none. A
backslash before the mark itself is left out. -/
def upTo (mark : Char) (s : List Char) : Option (List Char × List Char) :=
  match s with
  | [] => none
  | '\\' :: c :: t =>
    (upTo mark t).map fun (a, rest) =>
      ((if c = mark then [c] else if c = 'n' && mark != 'n' then ['\\', 'n'] else ['\\', c]) ++ a, rest)
  | c :: t =>
    if c = mark then some ([], t)
    else (upTo mark t).map fun (a, rest) => (c :: a, rest)

def unescaped : List Char → List Char
  | '\\' :: 'n' :: s => '\n' :: unescaped s
  | '\\' :: 't' :: s => '\t' :: unescaped s
  | '\\' :: 'f' :: s => '\x0c' :: unescaped s
  | '\\' :: 'v' :: s => '\x0b' :: unescaped s
  | '\\' :: 'r' :: s => '\r' :: unescaped s
  | '\\' :: 'a' :: s => '\x07' :: unescaped s
  | '\\' :: c :: s => '\\' :: c :: unescaped s
  | c :: s => c :: unescaped s
  | [] => []

def regexOf (dialect : Regex.Dialect) (s : List Char) : Except String (Option Regex) :=
  if s.isEmpty then .ok none else (Regex.ofText dialect (unescaped s)).map some

def digits : Reader (Option Nat) := do
  let ds := (← get).takeWhile Char.isDigit
  modify fun s => s.drop ds.length
  return if ds = [] then none else some (digitsValue 10 ds)

def accept (c : Char) : Reader Bool := do
  match ← get with
  | d :: s => if d = c then do set s; return true else return false
  | [] => return false

def address? (dialect : Regex.Dialect) : Reader (Option EditAddress) := do
  match ← digits with
  | some n => do
    skipBlanks
    if ← accept '~' then return some (.every n ((← digits).getD 0)) else return some (.line n)
  | none =>
    let holding (mark : Char) (s : List Char) : Reader (Option EditAddress) := do
      match upTo mark s with
      | none => throw "unterminated address regex"
      | some (text, rest) => do
        set rest
        let ignoreCase ← accept 'I'
        return some (.holding (← regexOf dialect text) ignoreCase)
    match ← get with
    | '$' :: s => do
      set s
      return some .last
    | '/' :: s => holding '/' s
    | '\\' :: c :: s => holding c s
    | _ => return none

def rangeOf (dialect : Regex.Dialect) : Reader EditRange := do
  match ← address? dialect with
  | none => return .all
  | some a => do
    skipBlanks
    if !(← accept ',') then return .one a
    skipBlanks
    if ← accept '+' then return .following a ((← digits).getD 0)
    match ← address? dialect with
    | some b => return .between a b
    | none => throw "unexpected \x60,\x27"

def replacementParts : Nat → List Char → List ReplacementPart
  | 0, _ => []
  | _ + 1, [] => []
  | n + 1, '\\' :: c :: s =>
    (if c.isDigit then .group (c.toNat - 48)
      else if c = 'U' then .letters (some true) true
      else if c = 'L' then .letters (some false) true
      else if c = 'u' then .letters (some true) false
      else if c = 'l' then .letters (some false) false
      else if c = 'E' then .letters none true
      else .text (match unescaped ['\\', c] with
        | ['\\', c] => [c]
        | cs => cs)) :: replacementParts n s
  | n + 1, '&' :: s => .group 0 :: replacementParts n s
  | n + 1, c :: s => .text [c] :: replacementParts n s

def substitutionLetters : Nat → Substitution → Reader Substitution
  | 0, s => return s
  | n + 1, s => do
    match ← get with
    | 'g' :: rest => do
      set rest
      substitutionLetters n { s with everywhere := true }
    | 'p' :: rest => do
      set rest
      substitutionLetters n { s with prints := true }
    | 'i' :: rest => do
      set rest
      substitutionLetters n { s with ignoreCase := true }
    | 'I' :: rest => do
      set rest
      substitutionLetters n { s with ignoreCase := true }
    | c :: rest =>
      if c.isDigit then do
        match ← digits with
        | some 0 => throw "number option to \x60s\x27 command may not be zero"
        | some k => substitutionLetters n { s with first := k }
        | none => return s
      else if c = ';' ∨ c = '\n' ∨ c = '\x7d' ∨ c = '#' ∨ c = ' ' ∨ c = '\t' then return s
      else do
        set rest
        throw "unknown option to \x60s\x27"
    | [] => return s

def substitution (dialect : Regex.Dialect) : Reader EditAction := do
  let unterminated : String := "unterminated \x60s\x27 command"
  match ← get with
  | [] => throw unterminated
  | mark :: s =>
    match (upTo mark s).bind fun (a, rest) => (upTo mark rest).map fun (b, rest) => (a, b, rest) with
    | none => do
      set ([] : List Char)
      throw unterminated
    | some (a, b, rest) => do
      set rest
      let options ← substitutionLetters (rest.length + 1)
        { pattern := ← regexOf dialect a, replacement := replacementParts (b.length + 1) b }
      return .substitute options

def lineText : Reader (List Char) := do
  skipBlanks
  match ← get with
  | '\\' :: '\n' :: s => set s
  | '\\' :: s => do
    set s
    skipBlanks
  | _ => pure ()
  let s ← get
  let (text, rest) := body s
  set rest
  return text ++ ['\n']
where
  body : List Char → List Char × List Char
    | [] => ([], [])
    | '\n' :: s => ([], s)
    | '\\' :: c :: s =>
      let (a, rest) := body s
      (c :: a, rest)
    | c :: s =>
      let (a, rest) := body s
      (c :: a, rest)

def labelName : Reader (List Char) := do
  skipBlanks
  let name := (← get).takeWhile fun c => c != ';' && c != '\n' && c != ' '
  modify fun s => s.drop name.length
  return name

def actionOf (dialect : Regex.Dialect) (c : Char) : Reader EditAction := do
  match c with
  | '\x7b' => return .opening
  | '\x7d' => return .closing
  | 's' => substitution dialect
  | 'y' =>
    match ← get with
    | [] => throw "unterminated \x60y\x27 command"
    | mark :: s =>
      match (upTo mark s).bind fun (a, rest) => (upTo mark rest).map fun (b, rest) => (a, b, rest) with
      | none => throw "unterminated \x60y\x27 command"
      | some (a, b, rest) => do
        set rest
        let a := (unescaped a)
        let b := (unescaped b)
        if a.length ≠ b.length then
          throw "strings for \x60y\x27 command are different lengths"
        return .transliterate (a.zip b)
  | ':' => return .label (← labelName)
  | 'b' => return .jump (← labelName)
  | 't' => return .jumpIf true (← labelName)
  | 'T' => return .jumpIf false (← labelName)
  | 'q' => do
    skipBlanks
    return .quit true ((← digits).getD 0)
  | 'Q' => do
    skipBlanks
    return .quit false ((← digits).getD 0)
  | c =>
    if c == 'a' || c == 'i' || c == 'c' then
      skipBlanks
      if (← get).isEmpty then throw ("expected \\ after \x60a\x27, \x60c\x27 or \x60i\x27")
      return .text c (← lineText)
    else if "dDgGhHlnNpPxz=".toList.contains c then return .plain c
    else throw ("unknown command: \x60" ++ String.singleton c ++ "\x27")

def all (dialect : Regex.Dialect) : Nat → Reader (List EditCommand)
  | 0 => return []
  | n + 1 => do
    skipEnds
    match ← get with
    | [] => return []
    | '#' :: s => do
      set (s.dropWhile (· != '\n'))
      all dialect n
    | _ => do
      let range ← rangeOf dialect
      skipBlanks
      let negated ← accept '!'
      skipBlanks
      match ← get with
      | [] => throw "missing command"
      | c :: s => do
        set s
        let action ← actionOf dialect c
        skipBlanks
        let isDone := match action with
          | .opening => true
          | .text .. => true
          | .label _ => true
          | _ => false
        match ← get with
        | d :: _ =>
          if !isDone && d != ';' && d != '\n' && d != '\x7d' && d != '#' then
            modify (·.drop 1)
            throw "extra characters after command"
        | [] => pure ()
        return ⟨range, negated, action⟩ :: (← all dialect n)

def ofText (dialect : Regex.Dialect) (s : List Char) : Except (String × Nat) (Array EditCommand) :=
  match (all dialect (s.length + 1)).run s with
  | (.ok cs, _) => .ok cs.toArray
  | (.error message, rest) => .error (message, s.length - rest.length)

end EditCommand

end HostProbe.Posix
