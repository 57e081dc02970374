import HostProbe.Fault
import HostProbe.Text.Quoted

/-! # Environments of commands

An environment gives each name one value. A name that is defined again keeps its place and takes the
new value. A portable name is made of ASCII letters, digits and underscores and does not start with a
digit. -/

namespace HostProbe

namespace Shell

open HostProbe.Text

def isPortableName : List Char → Bool
  | [] => false
  | c :: s => (c == '_' || c.isAlpha) && s.all fun d => d == '_' || d.isAlphanum

def envName (name : String) : Except Fault String :=
  if isPortableName name.toList then .ok name
  else .error (.invalidArgument
    ("`" ++ bare name ++ "` is not a valid environment variable name"))

end Shell

abbrev Environment := List (String × String)

namespace Environment

def define (name value : String) : Environment → Environment
  | [] => [(name, value)]
  | (n, v) :: rest => if n = name then (n, value) :: rest else (n, v) :: define name value rest

def defineAll (env : Environment) (more : List (String × String)) : Environment :=
  more.foldl (fun env (name, value) => define name value env) env

def checked (env : Environment) : Except Fault Environment := do
  for (name, _) in env do
    let _ ← Shell.envName name
  return env

def sorted (env : Environment) : Environment :=
  env.mergeSort fun a b => decide (a.1 < b.1 ∨ (a.1 = b.1 ∧ a.2 ≤ b.2))

def shownEntry (entry : String × String) : String :=
  "(" ++ Text.quoted entry.1 ++ ", " ++ Text.quoted entry.2 ++ ")"

def shown (env : Environment) : String := "[" ++ String.intercalate ", " (env.map shownEntry) ++ "]"

end Environment

end HostProbe
