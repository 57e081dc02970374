import HostProbe.Text.Blank

/-! # Grammars of command lines

A command has options, arguments and commands of its own. An option is read at the level of the
command after which it stands. Reading goes from the left to the right; what ends it first decides
what the caller sees. -/

namespace HostProbe.Cli

open HostProbe.Text

inductive OptionKind where
  | flag
  | counted
  | valued (isValid : String → Bool)

structure OptionRule where
  name : String
  letter : Option Char := none
  kind : OptionKind
  needs : Option String := none

inductive ArgumentRule where
  | none
  | one
  | many
  deriving DecidableEq

inductive Grammar where
  | command (name : String) (options : List OptionRule) (arguments : ArgumentRule)
      (commands : List Grammar)

namespace Grammar

def name : Grammar → String
  | .command name .. => name

def options : Grammar → List OptionRule
  | .command _ options .. => options

def arguments : Grammar → ArgumentRule
  | .command _ _ arguments _ => arguments

def commands : Grammar → List Grammar
  | .command _ _ _ commands => commands

def find? (g : Grammar) (name : String) : Option Grammar := g.commands.find? (·.name == name)

def option? (g : Grammar) (name : String) : Option OptionRule := g.options.find? (·.name == name)

def letter? (g : Grammar) (c : Char) : Option OptionRule := g.options.find? (·.letter == some c)

end Grammar

structure Level where
  given : List (OptionRule × String) := []
  arguments : List String := []
  pending : Option OptionRule := none
  literal : Bool := false

inductive Stop where
  | usage
  | help
  | version (path : List String)
  deriving DecidableEq, Repr

namespace Level

def has (l : Level) (name : String) : Bool := l.given.any (·.1.name == name)

def value? (l : Level) (name : String) : Option String :=
  (l.given.find? (·.1.name == name)).map (·.2)

def isValid (l : Level) : Bool :=
  l.given.all fun (o, value) => match o.kind with
    | .valued isValid => isValid value
    | _ => true

def settled (l : Level) : Except Stop Level :=
  if l.pending.isSome || !l.isValid then .error .usage else .ok l

def take (l : Level) (o : OptionRule) (value : String) : Except Stop Level :=
  match o.kind with
  | .counted => .ok { l with given := l.given ++ [(o, value)] }
  | _ => if l.has o.name then .error .usage
    else .ok { l with given := l.given ++ [(o, value)], pending := none }

def takeLong (path : List String) (g : Grammar) (l : Level) (name : String)
    (attached : Option String) : Except Stop Level := do
  let l ← l.settled
  match g.option? name, attached with
  | some o, some value => match o.kind with
    | .valued _ => l.take o value
    | _ => .error .usage
  | some o, none => match o.kind with
    | .valued _ => if l.has name then .error .usage else .ok { l with pending := some o }
    | _ => l.take o ""
  | none, some _ => .error .usage
  | none, none =>
    if name = "version" then .error (.version path)
    else if name = "help" then .error .help else .error .usage

def takeLetters (path : List String) (g : Grammar) : Level → List Char → Except Stop Level
  | l, [] => .ok l
  | l, c :: cs => do
    let l ← l.settled
    match g.letter? c with
    | some o => match o.kind with
      | .valued _ =>
        if l.has o.name then .error .usage
        else match cs with
          | [] => .ok { l with pending := some o }
          | '=' :: value => l.take o (String.ofList value)
          | value => l.take o (String.ofList value)
      | _ => do takeLetters path g (← l.take o "") cs
    | none =>
      if c = 'V' then .error (.version path) else if c = 'h' then .error .help else .error .usage

def takeArgument (g : Grammar) (l : Level) (a : String) : Except Stop Level :=
  match g.arguments, l.arguments with
  | .one, [] => .ok { l with arguments := [a] }
  | .many, as => .ok { l with arguments := as ++ [a] }
  | _, _ => .error .usage

def takePiece (path : List String) (g : Grammar) (l : Level) (a : String) : Except Stop Level :=
  if l.literal then l.takeArgument g a
  else match a.toList, l.pending with
    | ['-', '-'], _ => .ok { l with literal := true }
    | '-' :: '-' :: s, _ => match splitOnce? ['='] s with
      | some (name, value) =>
        l.takeLong path g (String.ofList name) (some (String.ofList value))
      | none => l.takeLong path g (String.ofList s) none
    | '-' :: c :: cs, _ => l.takeLetters path g (c :: cs)
    | _, some o => l.take o a
    | _, none => l.takeArgument g a

def finish (g : Grammar) (entered : Bool) (l : Level) : Except Stop Level := do
  let l ← l.settled
  let complete := match g.arguments with
    | .none => entered || g.commands.isEmpty
    | _ => !l.arguments.isEmpty
  if complete && l.given.all fun (o, _) => o.needs.all l.has then .ok l else .error .usage

end Level

namespace Grammar

def helpOn : Grammar → List String → Stop
  | _, [] => .help
  | g, name :: names => match g.find? name with
    | some sub => helpOn sub names
    | none => if name = "help" && !g.commands.isEmpty then .help else .usage

def entered? (g : Grammar) (l : Level) (a : String) : Option Grammar :=
  if l.literal || l.pending.isSome then none else g.find? a

/-- Reads the rest of a command line at the level of a command: the names of the commands that were
entered, with their levels. -/
def readFrom (path : List String) (g : Grammar) (l : Level) :
    List String → Except Stop (List (String × Level))
  | [] => do return [(g.name, ← l.finish g false)]
  | a :: rest =>
    match g.entered? l a with
    | some sub => do
      let below ← readFrom (path ++ [sub.name]) sub {} rest
      return (g.name, ← l.finish g true) :: below
    | none =>
      if a = "help" && !g.commands.isEmpty && !l.literal && l.pending.isNone then
        .error (g.helpOn rest)
      else do readFrom path g (← l.takePiece path g a) rest

def read (g : Grammar) (args : List String) : Except Stop (List (String × Level)) :=
  readFrom [g.name] g {} args

end Grammar

end HostProbe.Cli
