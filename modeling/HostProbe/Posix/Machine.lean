import HostProbe.Machine.Launcher
import HostProbe.Posix.Script

/-! # A standard machine

The programs of a machine that has a shell and the utilities, and nothing else that a command could
see. Nothing lasts from one call to the next. -/

namespace HostProbe.Posix

open HostProbe.Text

structure StandardMachine where
  searched : List String := ["/usr/local/bin", "/usr/bin", "/bin"]
  deriving Repr

namespace StandardMachine

def reach? (searched : List String) (call : String) : Except PathFault (Option String) :=
  if call.toList.contains '/' then
    (known call).map fun e => if e = .program then some (String.ofList (lastStep call)) else none
  else if searched.any fun dir => (known (dir ++ "/" ++ call)).toOption = some .program then
    .ok (some call)
  else .error .absent

def searchedBy (m : StandardMachine) (c : ProgramCall) : List String :=
  match c.env.lookup "PATH" with
  | some path => (splitAt ':' path.toList).map String.ofList
  | none => m.searched

def environment (c : ProgramCall) : List (String × String) :=
  let own := c.env.foldl (fun (vs : List (String × String)) v =>
    if (vs.lookup v.1).isSome then vs else vs ++ [v]) []
  let base := [("HOME", "/root"), ("PATH", "/usr/local/bin:/usr/bin:/bin")].filter fun v =>
    (own.lookup v.1).isNone
  (own ++ base).map (fun (name, v) => (String.ofList (encoded name), String.ofList (encoded v)))
    |>.mergeSort fun a b => decide (a.1 ≤ b.1)

def reread (env : List (String × String)) : List (String × String) :=
  env.filterMap fun (name, value) =>
    match name.toList with
    | [] => none
    | c :: cs =>
      let before := c :: cs.takeWhile (· != '=')
      match cs.drop (before.length - 1) with
      | [] => some (name, value)
      | _ :: after => some (String.ofList before, String.ofList after ++ "=" ++ value)

def initialState (c : ProgramCall) : ShellState :=
  let env := reread (environment c)
  { dir := physical "/" (c.dir.getD "/")
    bindings := env.map fun (name, v) => (name, { value := some v, exported := true })
    channels := [(0, .device .null), (1, .output), (2, .errors)]
    world := { deadline := c.timeoutMs } }

def outputOf (r : Except Halt Nat) (s : ShellState) : CommandOutput :=
  { exitCode := match r with
      | .ok status => status % 256
      | .error (.exited status) => status % 256
      | .error _ => -1
    stdout := decoded (s.world.shown false)
    stderr := decoded (s.world.shown true) }

def endOf (w : World) : Nat := w.jobs.foldl (fun t j => max t j.heldUntil) w.clock

def execute (name : String) (c : ProgramCall) : ProgramEnd :=
  let args := c.args.map fun a => String.ofList (encoded a)
  let (r, s) := (Script.launch true name c.program args Script.depthLimit).run (initialState c)
  if r matches .error .endless || c.timeoutMs ≤ endOf s.world then .tooLong
  else .finished (outputOf r s)

def failureOf : PathFault → ProgramEnd
  | .absent => .absent
  | .notDirectory => .notStarted "Not a directory (os error 20)"

def dirFailure? : Option String → Option ProgramEnd
  | none => none
  | some dir => match known dir with
    | .ok .dir => none
    | .ok _ => some (failureOf .notDirectory)
    | .error f => some (failureOf f)

def start (c : ProgramCall) (m : StandardMachine) : ProgramEnd :=
  match dirFailure? c.dir, reach? (m.searchedBy c) c.program with
  | some failure, _ => failure
  | none, .ok (some name) => execute name c
  | none, .ok none => .notStarted "Permission denied (os error 13)"
  | none, .error f => failureOf f

def launcher : Launcher StandardMachine where
  finds program m := (reach? m.searched program).toOption.join.isSome
  start c m := (start c m, m)

end StandardMachine

end HostProbe.Posix
