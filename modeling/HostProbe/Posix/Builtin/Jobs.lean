import HostProbe.Posix.Builtin.Basic
import HostProbe.Posix.Signal

/-! # Commands for signals and for commands in the background -/

namespace HostProbe.Posix

inductive JobState where
  | running
  | ended (status : Nat)
  | killed (signal : Nat)

namespace Job

def stateAt (j : Job) (time : Nat) : JobState :=
  if time < j.ends then .running
  else match j.signal with
    | some signal => .killed signal
    | none => .ended j.status

def stateText (j : Job) (time : Nat) : String :=
  match j.stateAt time with
  | .running => "Running"
  | .ended 0 => "Done"
  | .ended n => "Done(" ++ toString n ++ ")"
  | .killed signal => (Signal.text? signal).getD ""

end Job

namespace Builtin

def trap (args : List String) : ShellM Output := do
  let (_, args) ← flags "" args
  match args with
  | [] => do
    let s ← get
    return (Signal.names.flatMap fun (_, name) => match s.traps.lookup name with
      | some action => lineOf ("trap -- " ++ quotedText action ++ " " ++ name)
      | none => [], 0)
  | first :: rest => do
    let (action, names) := if rest.isEmpty ∨ (natOf? first).isSome then (none, first :: rest)
      else (if first = "-" then none else some first, rest)
    for name in names do
      match Signal.ofText? name with
      | none => do
        let _ ← writeTo 2 (lineOf ("trap: " ++ name ++ ": bad trap"))
        return ([], 1)
      | some (_, signal) =>
        modify fun s => { s with
          traps := action.toList.map (signal, ·) ++ s.traps.filter (·.1 != signal) }
    return ([], 0)

def ownJobs (s : ShellState) : List Job := s.world.jobs.filter (·.owner = s.shell)

def changeJob (number : Nat) (f : Job → Job) : ShellM Unit :=
  modifyWorld fun w => { w with
    jobs := w.jobs.map fun j => if j.number = number then f j else j }

def freeSlot (s : ShellState) : Nat :=
  let isHeld (j : Job) : Bool := !j.forgotten && !(j.awaited && j.ends ≤ s.world.clock)
  let held := ((ownJobs s).filter isHeld).map (·.slot)
  ((List.range (held.length + 1)).find? fun n => !held.contains (n + 1)).getD held.length + 1

def jobOf? (s : ShellState) (arg : String) : Option Job :=
  let held := (ownJobs s).filter (!·.forgotten)
  match arg.toList with
  | '%' :: cs =>
    if cs = [] ∨ cs = ['%'] ∨ cs = ['+'] then held.getLast?
    else if cs = ['-'] then held.dropLast.getLast?
    else (natOf? (String.ofList cs)).bind fun n => held.find? (·.slot == n)
  | _ => (natOf? arg).bind fun n => (ownJobs s).find? (·.number == n)

def waitFor (job : Job) : ShellM Nat := do
  passTo job.ends
  changeJob job.number fun j => { j with awaited := true }
  return job.status

def waitJobs (args : List String) : ShellM Output := do
  match args with
  | [] => do
    for job in ownJobs (← get) do
      let _ ← waitFor job
    return ([], 0)
  | _ => do
    let mut status := 127
    for arg in args do
      match jobOf? (← get) arg with
      | some job => do
        if !job.awaited then
          match job.signal.bind Signal.text? with
          | some text => do let _ ← writeTo 2 (lineOf text)
          | none => pure ()
        status := ← waitFor job
      | none =>
        if arg.toList.head? = some '%' then fail ("No such job: " ++ arg)
        let _ ← number arg
        status := 127
    return ([], status)

def jobs (args : List String) : ShellM Output := do
  let (given, _) ← flags "lp" args
  let s ← get
  let held := ((ownJobs s).filter (!·.forgotten)).reverse
  let row (j : Job) (k : Nat) : List Char :=
    let mark := if k = 0 then "+" else if k = 1 then "-" else " "
    let line := "[" ++ toString j.slot ++ "] " ++ mark ++ " " ++
      (if given.contains 'l' then toString j.number ++ " " else "") ++ j.stateText s.world.clock
    lineOf (line ++ String.ofList (List.replicate (33 - line.length) ' '))
  for j in held do
    if j.ends ≤ s.world.clock then changeJob j.number fun j => { j with forgotten := true }
  return (if given.contains 'p' then held.flatMap fun j => lineOf (toString j.number)
    else held.zipIdx.flatMap fun (j, k) => row j k, 0)

def noJob : ShellM Output := do
  if ((ownJobs (← get)).filter (!·.forgotten)).isEmpty then fail "No current job"
  fail "job (null) not created under job control"

def killJob (job : Job) (signal : Nat) : ShellM Unit := do
  let now := (← get).world.clock
  if now < job.ends ∧ signal ∉ [0, 2, 3] ∧ !Signal.harmless.contains signal then
    let heldUntil := job.children.foldl (fun t (a, b) => if a < now ∧ now < b then max t b else t)
      (min job.heldUntil now)
    changeJob job.number fun j => { j with
      ends := now, status := 128 + signal, signal := some signal, heldUntil }
    modifyWorld fun w => { w with
      records := w.records.filter fun r => r.job ≠ some job.number || r.time ≤ now }

def killUsage : String :=
  "Usage: kill [-s sigspec | -signum | -sigspec] [pid | job]... or\nkill -l [exitstatus]"

def receive (process : Nat) (signal : Nat × String) : ShellM Unit := do
  let s ← get
  let isCaught := signal.1 ≠ 9 ∧ signal.1 ≠ 19 ∧ process = s.processId
  match if isCaught then s.traps.lookup signal.2 else none with
  | some action =>
    if !action.isEmpty then modify fun s => { s with caught := s.caught ++ [signal.2] }
  | none =>
    if Signal.stopping.contains signal.1 then throw .endless
    if !Signal.harmless.contains signal.1 then throw (.killed process signal.1)

def receiveSent : ShellM Unit := do
  let s ← get
  if s.copies = 0 then
    let mine := s.world.sent.filter (·.1 = s.processId)
    modifyWorld fun w => { w with sent := w.sent.filter (·.1 ≠ s.processId) }
    for (n, signal) in mine do receive n (signal, (Signal.names.lookup signal).getD "")

def killOne (signal : Nat × String) (target : String) : ShellM Nat := do
  let s ← get
  match natOf? target with
  | none =>
    if target.toList.head? == some '%' then do
      complain "No such process"
      return 1
    else fail ("Illegal number: " ++ target)
  | some n =>
    if 4242 ≤ n ∧ n ≤ s.processId then
      if signal.1 = 0 then return 0
      if n = s.processId ∧ s.copies ≠ 0 then
        modifyWorld fun w => { w with sent := w.sent ++ [(n, signal.1)] }
      else receive n signal
      return 0
    else match s.world.jobs.find? (·.number == n) with
      | some job => do
        killJob job signal.1
        return 0
      | none => do
        complain "No such process\n"
        return 1

def kill (args : List String) : ShellM Output := do
  let byName (name : String) : ShellM (Nat × String) :=
    match Signal.ofText? name with
    | some signal => return signal
    | none => fail ("Illegal option -" ++ String.ofList (name.toList.take 1))
  let (signal, targets) ← (do
    match args with
    | [] => fail killUsage
    | "-l" :: rest => match rest with
      | [] => return (none, [])
      | rest => return (none, rest)
    | ["-s"] => fail "No arg for -s option"
    | "-s" :: name :: rest => match Signal.ofText? name with
      | some signal => return (some signal, rest)
      | none => fail ("invalid signal number or name: " ++ name)
    | "--" :: rest => return (some (15, "TERM"), rest)
    | a :: rest => match a.toList with
      | '-' :: name => return (some (← byName (String.ofList name)), rest)
      | _ => return (some (15, "TERM"), a :: rest)
    : ShellM (Option (Nat × String) × List String))
  match signal with
  | none => match targets with
    | [] => return (lineOf "0" ++ (Signal.names.drop 1).flatMap fun s => lineOf s.2, 0)
    | a :: _ => do
      let n ← number a
      match Signal.names.lookup (if n ≤ 128 then n else n - 128) with
      | some name => return (lineOf name, 0)
      | none => fail ("invalid signal number or exit status: " ++ a)
  | some signal => do
    if targets.isEmpty then fail killUsage
    let mut status := 0
    for target in targets do
      status := max status (← killOne signal target)
    return ([], status)

end Builtin

end HostProbe.Posix
