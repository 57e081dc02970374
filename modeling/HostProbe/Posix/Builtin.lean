import HostProbe.Posix.Builtin.Jobs
import HostProbe.Posix.Builtin.Names
import HostProbe.Posix.Builtin.Parameters
import HostProbe.Posix.Condition
import HostProbe.Posix.FileTree
import HostProbe.Posix.Format

/-! # Commands that run no other command -/

namespace HostProbe.Posix

namespace Builtin

def echo (args : List String) : Output :=
  let (newline, args) := match args with
    | "-n" :: args => (false, args)
    | args => (true, args)
  let (out, stopped) := expandEscapes .shell (String.intercalate " " args).toList
  (if newline && !stopped then out ++ ['\n'] else out, 0)

def printf (args : List String) : ShellM Output := do
  let (_, args) ← flags "" args
  match args with
  | [] => fail "usage: printf format [arg ...]"
  | format :: args => do
    let f := formatted .shell format args
    let out := f.events.flatMap fun
      | .text s => s
      | _ => []
    for e in f.events do
      match e with
      | .complaint about what => complain (String.ofList about ++ ": " ++ what)
      | _ => pure ()
    match f.fault with
    | some message => do
      let _ ← writeTo 1 out
      fail message
    | none =>
      let bad := f.events.any fun
        | .complaint .. => true
        | _ => false
      return (out, if bad then 1 else 0)

def test (name : String) (args : List String) : ShellM Output := do
  let s ← get
  match Condition.holds ⟨s.world.files, s.dir⟩ name args with
  | .ok yes => return ([], if yes then 0 else 1)
  | .error f => fail f.message

def namedDir (dir path : String) : String :=
  let isDoubled := match (if isAbsolute path then path else dir).toList with
    | ['/', '/'] => true
    | '/' :: '/' :: c :: _ => c != '/'
    | _ => false
  (if isDoubled then "/" else "") ++ absolute dir path

def cd (args : List String) : ShellM Output := do
  let (given, args) ← flags "LP" args
  let s ← get
  let (target, shows) := match args with
    | [] => ((s.valueOf? "HOME").getD "", false)
    | "-" :: _ => ((s.valueOf? "OLDPWD").getD s.dir, true)
    | a :: _ => (a, false)
  let first := target.toList.takeWhile (· != '/')
  let prefixes := if target.isEmpty ∨ first = [] ∨ first = ['.'] ∨ first = ['.', '.'] then []
    else ((s.valueOf? "CDPATH").map fun p => Text.splitAt ':' p.toList).getD []
  let found := prefixes.find? fun p =>
    s.world.files.isDir s.dir (String.ofList (if p = [] then target.toList else p ++ '/' :: target.toList))
  let path := match found with
    | some [] => target
    | some p => String.ofList (p ++ '/' :: target.toList)
    | none => if target.isEmpty then "." else target
  let dir := if given.getLast? = some 'P' then physical s.dir path else namedDir s.dir path
  if if given.getLast? = some 'P' then s.world.files.isDir s.dir path
      else s.world.files.isDir "/" dir then do
    for (name, value) in [("OLDPWD", s.dir), ("PWD", dir)] do
      if s.isReadOnly name then fail (name ++ ": is read only")
      modify fun t => { t.assignExported name value with dir }
    return (if shows || found.any (· ≠ []) then lineOf dir else [], 0)
  else fail ("can\x27t cd to " ++ target)

def pwd (args : List String) : ShellM Output := do
  let (given, _) ← flags "LP" args
  let s ← get
  return (lineOf (if given.getLast? = some 'P' then physical "/" s.dir else s.dir), 0)

def maskText (mask : Nat) : String :=
  let rights (n : Nat) : String :=
    (if n / 4 % 2 = 0 then "r" else "") ++ (if n / 2 % 2 = 0 then "w" else "") ++
      (if n % 2 = 0 then "x" else "")
  "u=" ++ rights (mask / 64) ++ ",g=" ++ rights (mask / 8) ++ ",o=" ++ rights mask

def umask (args : List String) : ShellM Output := do
  let (given, args) ← flags "S" args
  let s ← get
  match args with
  | [] =>
    if given.contains 'S' then return (lineOf (maskText s.mask), 0)
    else
      let ds := Nat.toDigits 8 s.mask
      return (List.replicate (4 - ds.length) '0' ++ ds ++ ['\n'], 0)
  | a :: _ =>
    if a.toList.head?.any Char.isDigit then
      if a.toList.all isOctal ∧ digitsValue 8 a.toList < 512 then
        MonadStateOf.set { s with mask := digitsValue 8 a.toList }
        return ([], 0)
      else fail ("Illegal number: " ++ a)
    else
      match (Text.splitAt ',' a.toList).foldlM changeRights (511 - s.mask) with
      | some m => do
        MonadStateOf.set { s with mask := 511 - m }
        return ([], 0)
      | none => fail ("Illegal mode: " ++ a)

def ulimit (args : List String) : ShellM Output := do
  let (given, _) ← flags "HSatfdsmcnplvwr" args
  return (lineOf (if given.contains 'c' then "0" else "unlimited"), 0)

def simple? (name : String) (args : List String) : Option (ShellM Output) :=
  match name with
  | ":" => some (return ([], 0))
  | "true" => some (return ([], 0))
  | "false" => some (return ([], 1))
  | "echo" => some (return echo args)
  | "printf" => some (printf args)
  | "test" => some (test name args)
  | "[" => some (test name args)
  | "cd" => some (cd args)
  | "chdir" => some (cd args)
  | "pwd" => some (pwd args)
  | "export" => some (declare "export" (·.exported) (fun b => { b with exported := true }) args)
  | "readonly" => some (declare "readonly" (·.readOnly) (fun b => { b with readOnly := true }) args)
  | "local" => some (localNames args)
  | "unset" => some (unset args)
  | "set" => some (set args)
  | "shift" => some (shift args)
  | "trap" => some (trap args)
  | "umask" => some (umask args)
  | "type" => some (type args)
  | "hash" => some (hash args)
  | "alias" => some (showAliases args)
  | "unalias" => some (unalias args)
  | "getopts" => some (getopts args)
  | "read" => some (read args)
  | "wait" => some (waitJobs args)
  | "kill" => some (kill args)
  | "ulimit" => some (ulimit args)
  | "times" => some (return (lineOf "0m0.000000s 0m0.000000s" ++
      lineOf "0m0.000000s 0m0.000000s", 0))
  | "jobs" => some (jobs args)
  | "fg" => some noJob
  | "bg" => some noJob
  | _ => none

end Builtin

end HostProbe.Posix
