import HostProbe.Posix.Bytes
import HostProbe.Posix.FileTree
import HostProbe.Posix.Quoting

/-! # Utilities

The programs that every machine has, each as a function of what it is given to what it does: what it
writes and where, how it ends, how long it takes and what becomes of the files. -/

namespace HostProbe.Posix

abbrev Options := List (Char × String)

namespace Options

def has (o : Options) (letter : Char) : Bool := (o.lookup letter).isSome

def valueOf? (o : Options) (letter : Char) : Option String := o.reverse.lookup letter

def lastOf? (o : Options) (letters : List Char) : Option (Char × String) :=
  (o.filter fun p => letters.contains p.1).getLast?

end Options

structure Invocation where
  name : String
  args : List String
  input : List Char := []
  endless : Bool := false
  inputIsFile : Bool := false
  inputIsClosed : Bool := false
  outputIsClosed : Bool := false
  env : List (String × String) := []
  dir : String := "/"
  files : FileTree := {}
  mask : Nat := 0o22

inductive InputUse where
  | nothing
  | available
  | all
  deriving DecidableEq, Repr

structure Effect where
  writes : List (Bool × List Char) := []
  status : Nat := 0
  ms : Nat := 0
  files : Option FileTree := none
  input : InputUse := .nothing
  endless : Bool := false

namespace Effect

def writing (out : List Char) : Effect := { writes := [(false, out)] }

def answering (yes : Bool) : Effect := { status := if yes then 0 else 1 }

def output (e : Effect) : List Char :=
  e.writes.flatMap fun w => if w.1 then [] else w.2

def write (e : Effect) (out : List Char) : Effect := { e with writes := e.writes ++ [(false, out)] }

def complain (e : Effect) (status : Nat) (message : String) : Effect :=
  { e with writes := e.writes ++ [(true, lineOf message)], status }

def readingAll (e : Effect) : Effect := { e with input := .all }

end Effect

namespace Invocation

variable (i : Invocation)

def failing (status : Nat) (message : String) : Effect :=
  ({} : Effect).complain status (i.name ++ ": " ++ message)

def misused (status : Nat) (message : String) : Effect :=
  (i.failing status message).complain status
    ("Try \x27" ++ i.name ++ " --help\x27 for more information.")

/-- The options among the arguments and the other arguments. `known` are the letters without and
`valued` those with a value; `longer` gives the letters of long options. `misuse` is the status of a
failure. Options may stand behind other arguments only if they are `mixed`. -/
def options? (mixed : Bool) (misuse : Nat) (known valued : List Char)
    (longer : List (String × Char)) : Except Effect (Options × List String) :=
  go i.args (2 * i.args.length + 2)
where
  longOption? (start : List Char) : Option Char :=
    match longer.lookup (String.ofList start) with
    | some c => some c
    | none => match longer.filter fun o => start.isPrefixOf o.1.toList with
      | [o] => some o.2
      | _ => none
  letters : List Char → List String → Except Effect (Options × List String)
    | [], rest => .ok ([], rest)
    | c :: cs, rest =>
      if valued.contains c then
        match cs, rest with
        | [], [] => .error (i.misused misuse ("option requires an argument -- \x27" ++
            String.singleton c ++ "\x27"))
        | [], v :: rest => .ok ([(c, v)], rest)
        | cs, rest => .ok ([(c, String.ofList cs)], rest)
      else if known.contains c then (letters cs rest).map fun (more, rest) => ((c, "") :: more, rest)
      else .error (i.misused misuse ("invalid option -- \x27" ++ String.singleton c ++ "\x27"))
  go (args : List String) : Nat → Except Effect (Options × List String)
    | 0 => .ok ([], args)
    | n + 1 =>
      match args with
      | [] => .ok ([], [])
      | a :: rest =>
        match a.toList with
        | ['-'] =>
          if mixed then (go rest n).map fun (found, rest) => (found, a :: rest) else .ok ([], args)
        | ['-', '-'] => .ok ([], rest)
        | '-' :: '-' :: word => do
          let start := word.takeWhile (· != '=')
          match longOption? start, word.drop start.length with
          | some c, '=' :: v =>
            let (found, rest) ← go rest n
            return ((c, String.ofList v) :: found, rest)
          | some c, _ =>
            if valued.contains c then
              match rest with
              | v :: rest =>
                let (found, rest) ← go rest n
                return ((c, v) :: found, rest)
              | [] => throw (i.misused misuse
                  ("option \x27--" ++ String.ofList start ++ "\x27 requires an argument"))
            else
              let (found, rest) ← go rest n
              return ((c, "") :: found, rest)
          | none, _ => throw (i.misused misuse ("unrecognized option \x27" ++ a ++ "\x27"))
        | '-' :: cs => do
          let (found, rest) ← letters cs rest
          let (more, rest) ← go rest n
          return (found ++ more, rest)
        | _ =>
          if mixed then (go rest n).map fun (found, rest) => (found, a :: rest) else .ok ([], args)

def withOptions (misuse : Nat) (known valued : String) (longer : List (String × Char))
    (run : Options → List String → Effect) : Effect :=
  match i.options? true misuse known.toList valued.toList longer with
  | .ok (found, rest) => run found rest
  | .error e => e

def inputPaths : List String := ["/dev/stdin", "/dev/fd/0", "/proc/self/fd/0"]

def content (path : String) : Except String (List Char) :=
  if path = "-" then (if i.inputIsClosed then .error "Bad file descriptor" else .ok i.input)
  else if inputPaths.contains path then .ok i.input
  else match i.files.find i.dir path with
    | .ok (_, .file s _) => .ok s
    | .ok (_, .dir) => .error "Is a directory"
    | .ok (_, .device .zero) => .ok (List.replicate 100000 '\x00')
    | .ok (_, _) => .ok []
    | .error f => .error f.message

def isEndless (path : String) : Bool :=
  if path = "-" then i.endless else i.files.find? i.dir path = some (.device .zero)

def contents (paths : List String) (complaint : String → String → String) :
    Effect × List (String × List Char) :=
  (if paths.isEmpty then ["-"] else paths).foldl (fun (e, found) path =>
    let isRead := path = "-" && e.input = .all
    let e := if path = "-" then e.readingAll else e
    match if isRead then .ok [] else i.content path with
    | .ok s => ({ e with endless := e.endless || i.isEndless path }, found ++ [(path, s)])
    | .error why =>
      let e := e.complain 1 (i.name ++ ": " ++ complaint path why)
      (if path = "-" then e.complain 1 (i.name ++ ": " ++
          (if i.name = "cat" then "closing standard input" else "-") ++ ": " ++ why) else e, found))
    ({}, [])

def joined (paths : List String) : Effect × List Char :=
  let (e, found) := i.contents paths fun path why => shownPath path ++ ": " ++ why
  (e, found.flatMap (·.2))

def written (files : FileTree) (path : String) (text : List Char) (atEnd : Bool) :
    Except String FileTree :=
  match files.resolve i.dir path with
  | .error f => .error f.message
  | .ok place =>
    match files.get? place with
    | some .dir => .error "Is a directory"
    | some .program => .error "Text file busy"
    | some (.device .full) => if text.isEmpty then .ok files else .error "No space left on device"
    | some (.device _) => .ok files
    | some (.file old mode) =>
      .ok (files.set place (some (.file (if atEnd then old ++ text else text) mode)))
    | none =>
      if files.get? place.dropLast = some .dir && path.toList.getLast? != some '/' then
        .ok (files.set place (some (.file text (0o666 &&& (511 - i.mask)))))
      else .error (if path.toList.getLast? = some '/' then "Is a directory"
        else "No such file or directory")

end Invocation

def linesOf (s : List Char) : List (List Char) :=
  s.foldr (fun c ls => if c = '\n' then ['\n'] :: ls else match ls with
    | [] => [[c]]
    | l :: ls => (c :: l) :: ls) []

def withoutEnd (line : List Char) : List Char :=
  if line.getLast? = some '\n' then line.dropLast else line

def bareLines (s : List Char) : List (List Char) := (linesOf s).map withoutEnd

def unlines (ls : List (List Char)) : List Char := ls.flatMap (· ++ ['\n'])

def natOf? (s : List Char) : Option Nat :=
  if s.all Char.isDigit && !s.isEmpty then some (digitsValue 10 s) else none

def isSpace (c : Char) : Bool := c == ' ' || (9 ≤ c.toNat && c.toNat ≤ 13)

def wordsIn (s : List Char) : List (List Char) :=
  let (done, last) := s.foldr (fun c (done, last) =>
    if isSpace c then (if last = [] then done else last :: done, []) else (done, c :: last)) ([], [])
  if last = [] then done else last :: done

end HostProbe.Posix
