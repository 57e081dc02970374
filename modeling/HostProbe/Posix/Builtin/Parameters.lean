import HostProbe.Posix.Builtin.Basic
import HostProbe.Posix.Options

/-! # Commands for parameters

Marking, hiding and removing parameters, setting options and arguments, and reading parameters from
options and from the input. -/

namespace HostProbe.Posix

namespace Builtin

def listing (word : String) (s : ShellState) (which : Binding → Bool) : List Char :=
  let shown := s.bindings.filter fun (_, b) => which b
  (shown.mergeSort fun a b => decide (a.1 ≤ b.1)).flatMap fun (name, b) =>
    lineOf (word ++ name ++ (match b.value with
      | some v => "=" ++ quotedText v
      | none => ""))

def declare (word : String) (which : Binding → Bool) (change : Binding → Binding)
    (args : List String) : ShellM Output := do
  let (given, args) ← flags "p" args
  if given.contains 'p' ∨ args.isEmpty then return (listing (word ++ " ") (← get) which, 0)
  for arg in args do
    let (name, value) := splitAssignment arg
    requireName name
    match value with
    | some v => assign name v
    | none => pure ()
    modify fun s => s.bind name (change ((s.bindings.lookup name).getD {}))
  return ([], 0)

def unset (args : List String) : ShellM Output := do
  let (given, args) ← flags "vf" args
  for name in args do
    if given.getLast? = some 'f' then
      modify fun s => { s with functions := s.functions.filter (·.1 != name) }
    else do
      requireName name
      let s ← get
      if s.isReadOnly name then fail (name ++ ": is read only")
      set (s.unbind name)
  return ([], 0)

def localNames (args : List String) : ShellM Output := do
  let s ← get
  match s.hidden with
  | [] => fail "not in a function"
  | _ => do
    for arg in args do
      let (name, value) := splitAssignment arg
      requireName name
      modify fun s => match s.hidden with
        | frame :: outer =>
          if (frame.lookup name).isSome then s
          else { s with hidden := ((name, s.bindings.lookup name) :: frame) :: outer }
        | [] => s
      match value with
      | some v => assign name v
      | none => pure ()
    return ([], 0)

def set (args : List String) : ShellM Output := do
  let s ← get
  if args.isEmpty then
    return (listing "" s fun b => b.value.isSome, 0)
  let r := OptionReading.read false (args.length + 1) { options := s.options, rest := args }
  let shown := r.shown.flatMap fun form => OptionReading.listing r.options form false
  match r.fault with
  | some message => do
    let _ ← writeTo 1 shown
    fail message
  | none => do
    modify fun s => { s with
      options := r.options
      args := if r.rest.isEmpty && !r.clears then s.args else r.rest }
    return (shown, 0)

def shift (args : List String) : ShellM Output := do
  let n ← match args with
    | [] => pure 1
    | a :: _ => number a
  let s ← get
  if s.args.length < n then fail "can\x27t shift that many"
  MonadStateOf.set { s with args := s.args.drop n }
  return ([], 0)

def getopts (args : List String) : ShellM Output := do
  match args with
  | letters :: name :: given => do
    let s ← get
    let args := if given.isEmpty then s.args else given
    let place := ((s.valueOf? "OPTIND").bind natOf?).getD 1
    let quiet := letters.toList.head? == some ':'
    let before := (args.getD (place - 2) "").toList
    let inside := if place ≤ 1 ∨ s.optionPlace = 0 then [] else before.drop s.optionPlace
    let finish (place off : Nat) (c : Char) (value : Option String) (status : Nat) :
        ShellM Output := do
      match value with
      | some v => assign "OPTARG" v
      | none => pure ()
      modify fun s => { s.assign "OPTIND" (toString place) with optionPlace := off }
      assign name (String.singleton c)
      return ([], status)
    let start : Option (List Char × Nat × Nat) :=
      if inside ≠ [] then some (inside, place, s.optionPlace)
      else match (args.getD (place - 1) "").toList with
        | '-' :: c :: cs => some (c :: cs, place + 1, 1)
        | _ => none
    match start with
    | none => finish place 0 '?' none 1
    | some (['-'], place, 1) => finish place 0 '?' none 1
    | some ([], place, _) => finish place 0 '?' none 1
    | some (c :: cs, place, off) => do
      let isOption := c != ':' && letters.toList.contains c
      let takes := match letters.toList.dropWhile (· != c) with
        | _ :: ':' :: _ => true
        | _ => false
      let off := if cs = [] then 0 else off + 1
      if !isOption then
        if quiet then finish place off '?' (some (String.singleton c)) 0
        else do
          let _ ← writeTo 2 (lineOf ("Illegal option -" ++ String.singleton c))
          modify fun s => s.unbind "OPTARG"
          finish place off '?' none 0
      else if !takes then finish place off c (some "") 0
      else if cs ≠ [] then finish place 0 c (some (String.ofList cs)) 0
      else match args[place - 1]? with
        | some v => finish (place + 1) 0 c (some v) 0
        | none =>
          if quiet then finish place 0 ':' (some (String.singleton c)) 0
          else do
            let _ ← writeTo 2 (lineOf ("No arg for -" ++ String.singleton c ++ " option"))
            modify fun s => s.unbind "OPTARG"
            finish place 0 '?' none 0
  | _ => fail "Usage: getopts optstring var [arg...]"

abbrev LineChar := Char × Bool

def readLine (raw : Bool) : List Char → List LineChar × Nat × Bool
  | [] => ([], 0, false)
  | '\n' :: _ => ([], 1, true)
  | '\\' :: s =>
    if raw then
      let (line, n, ended) := readLine raw s
      (('\\', false) :: line, n + 1, ended)
    else match s with
      | [] => ([], 1, false)
      | c :: s =>
        let (line, n, ended) := readLine raw s
        (if c = '\n' then line else (c, true) :: line, n + 2, ended)
  | c :: s =>
    let (line, n, ended) := readLine raw s
    (if c = '\x00' then line else (c, false) :: line, n + 1, ended)

def lineFields (cuts : List Char) : Nat → List LineChar → List (List Char)
  | 0, _ => []
  | n + 1, s =>
    let isCut (c : LineChar) : Bool := !c.2 && cuts.contains c.1
    let isBlank (c : LineChar) : Bool := isCut c && Fields.standardCuts.contains c.1
    let s := s.dropWhile isBlank
    let field := s.takeWhile (!isCut ·)
    let rest := s.drop field.length
    let afterCut : List LineChar := match rest with
      | [] => []
      | c :: r =>
        if isBlank c then
          match r.dropWhile isBlank with
          | d :: r => if isCut d then r else d :: r
          | [] => []
        else r
    if s = [] then []
    else if n = 0 then
      let kept := if (afterCut.dropWhile isBlank).isEmpty then field
        else (s.reverse.dropWhile isBlank).reverse
      [kept.map (·.1)]
    else field.map (·.1) :: lineFields cuts n afterCut

def read (args : List String) : ShellM Output := do
  let (given, names) ← options ['r'] ['p'] (args.length + 1) args
  if names.isEmpty then fail "arg count"
  let s ← get
  let (line, taken, ended) := readLine (given.any (·.1 == 'r')) (s.input 0)
  takeFrom 0 taken (!ended)
  let values := lineFields s.cuts names.length line
  for (name, k) in names.zipIdx do
    requireName name
    assign name (String.ofList (values.getD k []))
  return ([], if ended then 0 else 1)

end Builtin

end HostProbe.Posix
