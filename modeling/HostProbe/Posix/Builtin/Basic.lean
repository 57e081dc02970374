import HostProbe.Posix.State

/-! # Commands of the shell

The commands that a shell carries out itself. A fault in one of the special commands ends the shell;
a fault in another one only gives it a status. -/

namespace HostProbe.Posix

namespace Builtin

def special : List String :=
  [".", ":", "break", "continue", "eval", "exec", "exit", "export", "local", "readonly", "return",
    "set", "shift", "times", "trap", "unset"]

def regular : List String :=
  ["[", "alias", "bg", "cd", "chdir", "command", "echo", "false", "fg", "getopts", "hash", "jobs",
    "kill", "printf", "pwd", "read", "test", "true", "type", "ulimit", "umask", "unalias", "wait"]

def isKnown (name : String) : Bool := special.contains name || regular.contains name

abbrev Output := List Char × Nat

def natOf? (arg : String) : Option Nat :=
  let t := arg.toList.dropWhile (· == ' ')
  let t := match t with
    | '+' :: t => t
    | t => t
  let ds := t.takeWhile Char.isDigit
  if ds ≠ [] ∧ (t.drop ds.length).all (· == ' ') then some (digitsValue 10 ds) else none

def number (arg : String) : ShellM Nat :=
  match natOf? arg with
  | some n => if n < 2147483648 then return n else fail ("Illegal number: " ++ arg)
  | none => fail ("Illegal number: " ++ arg)

def options (known valued : List Char) : Nat → List String →
    ShellM (List (Char × String) × List String)
  | 0, args => return ([], args)
  | n + 1, args =>
    match args with
    | [] => return ([], [])
    | a :: rest =>
      match a.toList with
      | ['-'] => return ([], args)
      | ['-', '-'] => return ([], rest)
      | '-' :: cs => do
        let (found, rest) ← letters cs rest
        let (more, rest) ← options known valued n rest
        return (found ++ more, rest)
      | _ => return ([], args)
where
  letters : List Char → List String → ShellM (List (Char × String) × List String)
    | [], rest => return ([], rest)
    | c :: cs, rest =>
      if valued.contains c then
        match cs, rest with
        | [], [] => fail ("No arg for -" ++ String.singleton c ++ " option")
        | [], v :: rest => return ([(c, v)], rest)
        | cs, rest => return ([(c, String.ofList cs)], rest)
      else if known.contains c then do
        let (more, rest) ← letters cs rest
        return ((c, "") :: more, rest)
      else fail ("Illegal option -" ++ String.singleton c)

def flags (known : String) (args : List String) : ShellM (List Char × List String) := do
  let (found, rest) ← options known.toList [] (args.length + 1) args
  return (found.map (·.1), rest)

def quoted : Nat → List Char → List Char
  | 0, _ => []
  | n + 1, s =>
    let plain := s.takeWhile (· != '\x27')
    let rest := s.drop plain.length
    let quotes := rest.takeWhile (· == '\x27')
    let rest := rest.drop quotes.length
    '\x27' :: plain ++ ['\x27'] ++ (if quotes = [] then [] else '"' :: quotes ++ ['"']) ++
      (if rest = [] then [] else quoted n rest)

def quotedText (s : String) : String := String.ofList (quoted (s.length + 1) s.toList)

def splitAssignment (arg : String) : String × Option String :=
  let name := arg.toList.takeWhile (· != '=')
  match arg.toList.drop name.length with
  | [] => (arg, none)
  | _ :: value => (String.ofList name, some (String.ofList value))

def requireName (name : String) : ShellM Unit := do
  if !isName name.toList then fail (name ++ ": bad variable name")

end Builtin

end HostProbe.Posix
