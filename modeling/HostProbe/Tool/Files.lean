import HostProbe.Node.Execute

/-! # Reading and editing files

Reading with `cat`, editing in place with `sed`, which keeps a copy of the file, and writing a line
with `echo`. A pattern of an edit stands between slashes. -/

namespace HostProbe

variable {σ : Type} (n : Node σ)

namespace Cat

def read (path : String) (asRoot force : Bool) : NodeM σ String := do
  let arg ← Shell.quote path
  let opts : ExecOptions := { asRoot, forceRun := force, noInfoLog := true }
  let result ← n.executeCached ("cat " ++ arg) (opts.successOr ("failed to read " ++ path))
  return result.stdout

def run (args : String) (opts : ExecOptions) : NodeM σ String := do
  return (← n.execute ("cat " ++ args) opts).stdout

end Cat

namespace Sed

def edit (expression file : String) (asRoot : Bool) : NodeM σ Unit := do
  let expressionArg ← Shell.quote expression
  let fileArg ← Shell.quote file
  let opts : ExecOptions := { asRoot }
  let _ ← n.execute ("sed -i.bak " ++ expressionArg ++ " " ++ fileArg)
    (opts.successOr ("failed to edit " ++ file))

def substitution (pattern replacement : String) (lines : Option String) : String :=
  let command := "s/" ++ pattern ++ "/" ++ replacement ++ "/g"
  match lines with
  | some selector => "/" ++ selector ++ "/" ++ command
  | none => command

def substitute (pattern replacement file : String) (lines : Option String) (asRoot : Bool) :
    NodeM σ Unit :=
  edit n (substitution pattern replacement lines) file asRoot

def append (text file : String) (asRoot : Bool) : NodeM σ Unit := edit n ("$a " ++ text) file asRoot

end Sed

namespace Echo

def write (value file : String) (append asRoot : Bool) : NodeM σ Unit := do
  let valueArg ← Shell.quote value
  let fileArg ← Shell.quote file
  let opts : ExecOptions := { asRoot, shell := true }
  let _ ← n.execute ("echo " ++ valueArg ++ (if append then " >> " else " > ") ++ fileArg)
    (opts.successOr ("failed to write " ++ file))

end Echo

end HostProbe
