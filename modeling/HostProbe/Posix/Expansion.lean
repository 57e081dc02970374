import HostProbe.Posix.Arithmetic
import HostProbe.Posix.Pattern
import HostProbe.Posix.State

/-! # From words to arguments

The values of parameters, the outputs of scripts and the results of sums are put into a word. What
was put in without quotes is then cut into fields, and fields that are patterns become the names of
files. Quotes themselves leave nothing behind, but a pair of quotes is a field even if nothing is in
it. -/

namespace HostProbe.Posix

inductive Piece where
  | plain (c : Char)
  | quoted (c : Char)
  | inserted (c : Char)
  | presence
  | boundary
  deriving DecidableEq, Repr

namespace Piece

def char? : Piece → Option Char
  | .plain c => some c
  | .quoted c => some c
  | .inserted c => some c
  | _ => none

def letter? : Piece → Option Pattern.Letter
  | .plain c => some (c, false)
  | .quoted c => some (c, true)
  | .inserted c => some (c, false)
  | _ => none

def asInserted : Piece → Piece
  | .plain c => .inserted c
  | p => p

end Piece

def textOf (ps : List Piece) : List Char := ps.filterMap Piece.char?

def patternOf (ps : List Piece) : Pattern :=
  let ls := ps.filterMap Piece.letter?
  Pattern.ofLetters (ls.length + 1) ls

namespace Fields

def standardCuts : List Char := [' ', '\t', '\n']

structure Cutting where
  done : List (List Piece) := []
  current : List Piece := []
  afterBlank : Bool := false

namespace Cutting

def close (k : Cutting) : Cutting := { done := k.current.reverse :: k.done, afterBlank := false }

def finish (k : Cutting) : Cutting := if k.current.isEmpty then { k with afterBlank := false }
  else k.close

def step (cuts : List Char) (k : Cutting) (p : Piece) : Cutting :=
  match p with
  | .boundary => k.finish
  | .inserted c =>
    let isBlank := standardCuts.contains c
    if !cuts.contains c then { k with current := p :: k.current, afterBlank := false }
    else if k.afterBlank then { k with afterBlank := isBlank }
    else if isBlank && k.current.isEmpty then k
    else { k.close with afterBlank := isBlank }
  | p => { k with current := p :: k.current, afterBlank := false }

end Cutting

def ofPieces (cuts : List Char) (ps : List Piece) : List (List Piece) :=
  (ps.foldl (Cutting.step cuts) {}).finish.done.reverse

end Fields

namespace ShellState

def cuts (s : ShellState) : List Char :=
  ((s.valueOf? "IFS").map String.toList).getD Fields.standardCuts

def joinedArgs (s : ShellState) : String :=
  let joint := match (s.valueOf? "IFS").map String.toList with
    | none => " "
    | some [] => ""
    | some (c :: _) => String.singleton c
  String.intercalate joint s.args

def optionLetters : List (Char × String) :=
  [('e', "errexit"), ('f', "noglob"), ('I', "ignoreeof"), ('i', "interactive"), ('m', "monitor"),
    ('n', "noexec"), ('s', "stdin"), ('x', "xtrace"), ('v', "verbose"), ('V', "vi"),
    ('E', "emacs"), ('C', "noclobber"), ('a', "allexport"), ('b', "notify"), ('u', "nounset"),
    ('p', "privileged"), ('\x00', "nolog"), ('\x00', "debug")]

def parameter? (s : ShellState) (name : List Char) : Option String :=
  match name with
  | ['?'] => some (toString s.status)
  | ['$'] => some (toString s.processId)
  | ['!'] => s.lastJob.map toString
  | ['#'] => some (toString s.args.length)
  | ['-'] => some (String.ofList ((optionLetters.map (·.1)).filter s.options.contains))
  | ['@'] => if s.args.isEmpty then none else some s.joinedArgs
  | ['*'] => if s.args.isEmpty then none else some s.joinedArgs
  | c :: _ =>
    if c.isDigit then
      match digitsValue 10 name with
      | 0 => some s.name
      | n + 1 => s.args[n]?
    else s.valueOf? (String.ofList name)
  | [] => none

end ShellState

namespace Expansion

def homeOf (s : ShellState) (user : List Char) : Option String :=
  if user = [] then s.valueOf? "HOME"
  else if user = "root".toList then some "/root" else none

/-- A text whose start may name the home of a user, up to a slash or, in a list of paths, a colon;
`open_` tells that more of the word follows the text. -/
def withHome (s : ShellState) (listed open_ : Bool) (t : List Char) : Word :=
  match t with
  | '~' :: rest =>
    let user := rest.takeWhile fun c => c != '/' && !(listed && c == ':')
    let after := rest.drop user.length
    if after = [] ∧ open_ then [.text t false]
    else match homeOf s user with
      | some home => [.text home.toList true, .text after false]
      | none => [.text t false]
  | _ => [.text t false]

def withHomes (s : ShellState) (open_ : Bool) : Nat → List Char → Word
  | 0, t => [.text t false]
  | n + 1, t =>
    let first := t.takeWhile (· != ':')
    match t.drop first.length with
    | [] => withHome s true open_ first
    | _ :: rest => withHome s true false first ++ .text [':'] false :: withHomes s open_ n rest

def atHome (s : ShellState) (listed : Bool) (w : Word) : Word :=
  match w with
  | .text t false :: rest =>
    (if listed then withHomes s (!rest.isEmpty) (t.length + 1) t
      else withHome s false (!rest.isEmpty) t) ++ rest
  | w => w

def placed (quoted : Bool) (value : List Char) : List Piece :=
  value.map fun c => if quoted then .quoted c else .inserted c

def placedText (quoted : Bool) (s : List Char) : List Piece :=
  if !quoted then s.map .plain else if s = [] then [.presence] else s.map .quoted

def placedArgs (quoted : Bool) : List String → List Piece
  | [] => []
  | [a] => (if quoted then [.presence] else []) ++ placed quoted a.toList
  | a :: b :: args =>
    (if quoted then [.presence] else []) ++ placed quoted a.toList ++
      .boundary :: placedArgs quoted (b :: args)

def failSum {α : Type} (e : List Char) (f : Arithmetic.ArithmeticFault) : ShellM α :=
  let because (reason : String) : ShellM α :=
    fail ("arithmetic expression: " ++ reason ++ ": \"" ++ String.ofList e ++ "\"")
  match f with
  | .expectingPrimary => because "expecting primary"
  | .expectingEnd => because "expecting EOF"
  | .expectingBracket => because "expecting \x27)\x27"
  | .expectingColon => because "expecting \x27:\x27"
  | .divisionByZero => because "division by zero"
  | .notNumber text => fail ("Illegal number: " ++ String.ofList text)
  | .refused name => fail (String.ofList name ++ ": is read only")

def sum (e : List Char) : ShellM Int := do
  let s ← get
  let value (name : List Char) : Except Arithmetic.ArithmeticFault Int :=
    let text := ((s.parameter? name).getD "").toList
    match Arithmetic.valueOfText? text with
    | some n => .ok n
    | none => .error (.notNumber text)
  let assignable (name : List Char) : Bool := !s.isReadOnly (String.ofList name)
  match Arithmetic.evaluate ⟨value, assignable⟩ e with
  | .ok (n, assigned) => do
    modify fun s => assigned.foldl
      (fun s (name, v) => s.assign (String.ofList name) (toString v)) s
    return n
  | .error f => failSum e f

def isGiven (orEmpty : Bool) : Option String → Bool
  | none => false
  | some v => !(orEmpty && v.isEmpty)

def failUnset {α : Type} (name : List Char) : ShellM α :=
  fail (String.ofList name ++ ": parameter not set")

/-- The pieces of a part of a word. `fields` tells whether the word is cut into fields afterwards
and `inserted` gives the output of a script. -/
def ofPart (inserted : Command → ShellM (List Char)) (fields : Bool) :
    Nat → Part → ShellM (List Piece)
  | 0, _ => throw .endless
  | n + 1, part => do
    let word (w : Word) : ShellM (List Piece) := do
      let s ← get
      return (← (atHome s false w).mapM (ofPart inserted fields n)).flatten
    let text (w : Word) : ShellM (List Char) := do
      let s ← get
      return textOf (← (atHome s false w).mapM (ofPart inserted false n)).flatten
    match part with
    | .text s quoted => return placedText quoted s
    | .output body quoted => return placed quoted (← inserted body)
    | .arithmetic e quoted => do
      return placed quoted (toString (← sum (← text e))).toList
    | .parameter name use quoted => do
      let s ← get
      let isArgs := name = ['@'] ∨ name = ['*']
      let value := s.parameter? name
      let plain : List Piece :=
        if isArgs ∧ fields ∧ ¬(quoted ∧ name = ['*']) then placedArgs quoted s.args
        else placed quoted (value.getD "").toList
      let required : ShellM Unit := do
        if s.has 'u' ∧ value.isNone ∧ ¬isArgs then failUnset name
      match use with
      | .plain => do
        required
        return plain
      | .length => do
        required
        let n := (value.getD "").length
        return placed quoted (toString n).toList
      | .malformed => fail "Bad substitution"
      | .default orEmpty w =>
        if isGiven orEmpty value then return plain else return (← word w).map Piece.asInserted
      | .alternative orEmpty w =>
        if isGiven orEmpty value then return (← word w).map Piece.asInserted else return []
      | .assign orEmpty w =>
        if isGiven orEmpty value then return plain
        else do
          let t ← text w
          if !isName name then fail (String.ofList name ++ ": bad variable name")
          assign (String.ofList name) (String.ofList t)
          return placed quoted t
      | .require orEmpty w =>
        if isGiven orEmpty value then return plain
        else do
          let t ← text w
          fail (String.ofList name ++ ": " ++ (if w.isEmpty then
            "parameter not set" ++ (if orEmpty then " or null" else "") else String.ofList t))
      | .trim atEnd longest w => do
        required
        let p := patternOf (← word w)
        return placed quoted (p.trim atEnd longest (value.getD "").toList)

def depthLimit : Nat := 1000

def ofWord (inserted : Command → ShellM (List Char)) (fields : Bool) (w : Word) :
    ShellM (List Piece) := do
  let s ← get
  return (← (atHome s false w).mapM (ofPart inserted fields depthLimit)).flatten

def text (inserted : Command → ShellM (List Char)) (w : Word) : ShellM String := do
  return String.ofList (textOf (← ofWord inserted false w))

def value (inserted : Command → ShellM (List Char)) (w : Word) : ShellM String := do
  let s ← get
  return String.ofList (textOf
    (← (atHome s true w).mapM (ofPart inserted false depthLimit)).flatten)

def document (inserted : Command → ShellM (List Char)) (w : Word) : ShellM (List Char) := do
  return textOf (← w.mapM (ofPart inserted false depthLimit)).flatten

end Expansion

namespace Fields

def pathSteps : List Pattern.Letter → List (List Pattern.Letter)
  | [] => [[]]
  | l :: ls => match pathSteps ls with
    | [] => [[l]]
    | step :: steps => if l.1 = '/' then [] :: step :: steps else (l :: step) :: steps

def pathsFrom (files : FileTree) (dir : String) :
    List Char → List (List Pattern.Letter) → List (List Char)
  | known, [] => [known]
  | known, step :: steps =>
    let p := Pattern.ofLetters (step.length + 1) step
    let joint (name : List Char) : List Char := known ++ name ++ (if steps.isEmpty then [] else ['/'])
    let here := String.ofList (if known = [] then ['.'] else known)
    if !Pattern.isActive p then
      let name := p.filterMap fun
        | .exact c => some c
        | _ => none
      if steps.isEmpty ∧ ¬(files.find? dir (String.ofList (joint name))).isSome then []
      else pathsFrom files dir (joint name) steps
    else
      let hidden : List (List Char) :=
        if step.head?.any (·.1 == '.') then [['.'], ['.', '.']] else []
      let names := match files.find dir here with
        | .ok (place, .dir) => hidden ++ files.namesIn place
        | _ => []
      (names.filter fun name => p.isMatch name &&
          (name.head? != some '.' || step.head?.any (·.1 == '.'))).flatMap fun name =>
        if steps.isEmpty ∨ files.isDir dir (String.ofList (known ++ name)) then
          pathsFrom files dir (joint name) steps
        else []

def globbed (s : ShellState) (field : List Piece) : List String :=
  let plain := String.ofList (textOf field)
  if s.has 'f' || !(patternOf field).isActive then [plain]
  else match pathsFrom s.world.files s.dir [] (pathSteps (field.filterMap Piece.letter?)) with
    | [] => [plain]
    | paths => (paths.map String.ofList).mergeSort fun a b => decide (a ≤ b)

end Fields

namespace Expansion

def fields (inserted : Command → ShellM (List Char)) (w : Word) : ShellM (List String) := do
  let ps ← ofWord inserted true w
  let s ← get
  return (Fields.ofPieces s.cuts ps).flatMap (Fields.globbed s)

end Expansion

end HostProbe.Posix
