import HostProbe.Posix.Builtin.Basic

/-! # Commands for names of commands

How a name is understood as a command: as a word of the language, an alias, a function, a command of
the shell or a program. -/

namespace HostProbe.Posix

namespace Builtin

inductive Meaning where
  | keyword
  | alias (text : List Char)
  | special
  | function
  | regular
  | program (path : String)
  | unknown

def searched (s : ShellState) : List String :=
  ((s.valueOf? "PATH").map fun p => (Text.splitAt ':' p.toList).map String.ofList).getD []

def programPath? (s : ShellState) (name : String) : Option String :=
  (s.world.files.programsIn s.dir (searched s) name).head?

def programFault (s : ShellState) (name : String) : String :=
  let isThere := (searched s).any fun d =>
    (s.world.files.find? s.dir (if d.isEmpty then name else d ++ "/" ++ name)).isSome
  if isThere then "Permission denied" else "not found"

def meaning (s : ShellState) (name : String) : Meaning :=
  if reservedWords.contains name then .keyword
  else match s.aliases.lookup name with
    | some text => .alias text
    | none =>
      if name.toList.contains '/' then
        if (s.world.files.find? s.dir name).isSome then .program name else .unknown
      else if special.contains name then .special
      else if (s.functions.lookup name).isSome then .function
      else if regular.contains name then .regular
      else match programPath? s name with
        | some path => .program path
        | none => .unknown

def describe (name : String) : ShellM Output := do
  return match meaning (← get) name with
    | .keyword => (lineOf (name ++ " is a shell keyword"), 0)
    | .alias text => (lineOf (name ++ " is an alias for " ++ String.ofList text), 0)
    | .special => (lineOf (name ++ " is a special shell builtin"), 0)
    | .function => (lineOf (name ++ " is a shell function"), 0)
    | .regular => (lineOf (name ++ " is a shell builtin"), 0)
    | .program path => (lineOf (name ++ " is " ++ path), 0)
    | .unknown => (lineOf (name ++ ": not found"), 127)

def locate (name : String) : ShellM Output := do
  return match meaning (← get) name with
    | .alias text => (lineOf ("alias " ++ name ++ "=" ++ quotedText (String.ofList text)), 0)
    | .program path => (lineOf path, 0)
    | .unknown => ([], 127)
    | _ => (lineOf name, 0)

def type (args : List String) : ShellM Output := do
  let (_, args) ← flags "" args
  let told ← args.mapM describe
  return (told.flatMap (·.1), if told.any (·.2 != 0) then 127 else 0)

def hash (args : List String) : ShellM Output := do
  let (_, args) ← flags "rv" args
  let s ← get
  let mut status := 0
  for name in args do
    match meaning s name with
    | .unknown => do
      complain (name ++ ": not found")
      status := 1
    | _ => pure ()
  return ([], status)

def showAliases (args : List String) : ShellM Output := do
  let s ← get
  let shown (name : String) (text : List Char) : List Char :=
    lineOf (name ++ "=" ++ quotedText (String.ofList text))
  if args.isEmpty then
    return ((s.aliases.mergeSort fun a b => decide (a.1 ≤ b.1)).flatMap fun a => shown a.1 a.2, 0)
  let mut out := []
  let mut status := 0
  for arg in args do
    match splitAssignment arg with
    | (name, some text) =>
      modify fun s => { s with aliases := (name, text.toList) :: s.aliases.filter (·.1 != name) }
    | (name, none) => match (← get).aliases.lookup name with
      | some text => out := out ++ shown name text
      | none => do
        let _ ← writeTo 2 (lineOf ("alias: " ++ name ++ " not found"))
        status := 1
  return (out, status)

def unalias (args : List String) : ShellM Output := do
  let (given, args) ← flags "a" args
  if given.contains 'a' then
    modify fun s => { s with aliases := [] }
    return ([], 0)
  let mut status := 0
  for name in args do
    if ((← get).aliases.lookup name).isSome then
      modify fun s => { s with aliases := s.aliases.filter (·.1 != name) }
    else do
      let _ ← writeTo 2 (lineOf ("unalias: " ++ name ++ " not found"))
      status := 1
  return ([], status)

end Builtin

end HostProbe.Posix
