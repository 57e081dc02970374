import HostProbe.Posix.Bytes
import HostProbe.Posix.FileTree
import HostProbe.Posix.Source

/-! # The state of a shell

A shell has parameters, functions, a directory and channels of its own. The files, the pipes, the
clock and what was written are shared with the shells that it starts. What is written is kept with
the time when it was written, because a command in the background may write later than a command
that runs after it. -/

namespace HostProbe.Posix

inductive Endpoint where
  | output
  | errors
  | device (d : Device)
  | pipe (n : Nat)
  | file (place : Place) (writable : Bool)
  deriving DecidableEq, Repr

abbrev Channels := List (Nat × Endpoint)

structure Record where
  time : Nat
  toErrors : Bool
  text : List Char
  job : Option Nat

structure Job where
  number : Nat
  owner : Nat
  slot : Nat
  ends : Nat
  status : Nat := 0
  signal : Option Nat := none
  heldUntil : Nat := 0
  children : List (Nat × Nat) := []
  awaited : Bool := false
  forgotten : Bool := false
  deriving Repr

structure PipeContent where
  front : List Char := []
  back : List (List Char) := []
  ends : Option Nat := some 0
  isFile : Bool := false

namespace PipeContent

def all (p : PipeContent) : List Char :=
  if p.back.isEmpty then p.front else p.front ++ p.back.reverse.flatten

def push (p : PipeContent) (s : List Char) : PipeContent := { p with back := s :: p.back }

def drop (p : PipeContent) (n : Nat) : PipeContent := { p with front := p.all.drop n, back := [] }

end PipeContent

structure World where
  files : FileTree := {}
  pipes : List (Nat × PipeContent) := []
  pipeCount : Nat := 0
  records : List Record := []
  clock : Nat := 0
  shells : Nat := 0
  deadline : Nat := 0
  jobs : List Job := []
  current : Option Nat := none
  heldUntil : Nat := 0
  released : Option Nat := none
  children : List (Nat × Nat) := []
  steps : Nat := 0
  sent : List (Nat × Nat) := []

structure Binding where
  value : Option String := none
  exported : Bool := false
  readOnly : Bool := false
  deriving Repr, Inhabited

structure ShellFunction where
  line : Nat
  body : Command

structure ShellState where
  world : World := {}
  name : String := "sh"
  args : List String := []
  bindings : List (String × Binding) := []
  functions : List (String × ShellFunction) := []
  options : List Char := []
  dir : String := "/"
  channels : Channels := []
  status : Nat := 0
  insertedStatus : Option Nat := none
  line : Nat := 0
  functionLine : Nat := 0
  command : Option String := none
  loops : Nat := 0
  hidden : List (List (String × Option Binding)) := []
  traps : List (String × String) := []
  caught : List String := []
  documents : List (Nat × Word) := []
  documentCount : Nat := 0
  aliases : List (String × List Char) := []
  mask : Nat := 0o22
  optionPlace : Nat := 0
  lastJob : Option Nat := none
  depth : Nat := 0
  copies : Nat := 0
  shell : Nat := 0
  calls : Nat := 0

inductive Halt where
  | exited (status : Nat)
  | failed
  | killed (process signal : Nat)
  | endless
  | broke (loops : Nat)
  | continued (loops : Nat)
  | returned (status : Nat)
  deriving DecidableEq, Repr

abbrev ShellM := ExceptT Halt (StateM ShellState)

def modifyWorld (f : World → World) : ShellM Unit := modify fun s => { s with world := f s.world }

namespace ShellState

def processId (s : ShellState) : Nat := 4242 + s.depth

def has (s : ShellState) (option : Char) : Bool := s.options.contains option

def valueOf? (s : ShellState) (name : String) : Option String :=
  (s.bindings.lookup name).bind (·.value)

def bind (s : ShellState) (name : String) (b : Binding) : ShellState :=
  if (s.bindings.lookup name).isSome then
    { s with bindings := s.bindings.map fun (n, c) => if n == name then (n, b) else (n, c) }
  else { s with bindings := s.bindings ++ [(name, b)] }

def unbind (s : ShellState) (name : String) : ShellState :=
  { s with bindings := s.bindings.filter (·.1 != name) }

def isReadOnly (s : ShellState) (name : String) : Bool :=
  (s.bindings.lookup name).any (·.readOnly)

def assign (s : ShellState) (name value : String) : ShellState :=
  let b := (s.bindings.lookup name).getD {}
  let s := if name = "OPTIND" then { s with optionPlace := 0 } else s
  s.bind name { b with value := some value, exported := b.exported || s.has 'a' }

def groupOf (name : String) : Nat :=
  match name.toList with
  | [] => 0
  | c :: cs => (c.toNat * 17 + cs.foldl (fun n c => n + c.toNat) 0) % 39

def env (s : ShellState) : List (String × String) :=
  let all := s.bindings.filterMap fun (name, b) =>
    if b.exported then b.value.map (name, ·) else none
  all.mergeSort fun a b => decide (groupOf a.1 ≤ groupOf b.1)

def assignExported (s : ShellState) (name value : String) : ShellState :=
  let s := s.assign name value
  s.bind name { (s.bindings.lookup name).getD {} with exported := true }

def channel? (s : ShellState) (n : Nat) : Option Endpoint := s.channels.lookup n

def input (s : ShellState) (n : Nat) : List Char :=
  match s.channel? n with
  | some (.pipe p) => ((s.world.pipes.lookup p).map PipeContent.all).getD []
  | some (.device .zero) => List.replicate 100000 '\x00'
  | _ => []

def inputIsFile (s : ShellState) (n : Nat) : Bool :=
  match s.channel? n with
  | some (.pipe p) => (s.world.pipes.lookup p).any (·.isFile)
  | _ => false

end ShellState

namespace Channels

def connect (c : Channels) (n : Nat) (e : Option Endpoint) : Channels :=
  e.toList.map (n, ·) ++ c.filter (·.1 ≠ n)

def holdOutput (c : Channels) : Bool :=
  c.any fun (_, e) => e = .output || e = .errors

end Channels

namespace World

def appendFile (w : World) (place : Place) (text : List Char) : World :=
  match w.files.get? place with
  | some (.file old mode) =>
    { w with files := ⟨(place, some (.file (old ++ text) mode)) ::
        w.files.changes.filter (·.1 ≠ place)⟩ }
  | _ => w

def write (w : World) (e : Option Endpoint) (text : List Char) : World × Bool :=
  match e with
  | none => (w, text.isEmpty)
  | some .output => ({ w with records := ⟨w.clock, false, text, w.current⟩ :: w.records }, true)
  | some .errors => ({ w with records := ⟨w.clock, true, text, w.current⟩ :: w.records }, true)
  | some (.device .full) => (w, text.isEmpty)
  | some (.device _) => (w, true)
  | some (.pipe p) =>
    ({ w with pipes := w.pipes.map fun (q, c) => if q = p then (q, c.push text) else (q, c) }, true)
  | some (.file place writable) =>
    if writable then (w.appendFile place text, true) else (w, text.isEmpty)

def consume (w : World) (e : Option Endpoint) (count : Nat) : World :=
  match e with
  | some (.pipe p) =>
    { w with pipes := w.pipes.map fun (q, c) => if q = p then (q, c.drop count) else (q, c) }
  | _ => w

def newPipe (w : World) (content : List Char) (isFile : Bool) : Nat × World :=
  (w.pipeCount, { w with
    pipes := (w.pipeCount, { front := content, isFile }) :: w.pipes, pipeCount := w.pipeCount + 1 })

def shown (w : World) (toErrors : Bool) : List Char :=
  ((w.records.reverse.mergeSort fun a b => decide (a.time ≤ b.time)).filter
    (·.toErrors == toErrors)).flatMap (·.text)

end World

def writeTo (channel : Nat) (text : List Char) : ShellM Bool := do
  let s ← get
  let (w, ok) := s.world.write (s.channel? channel) text
  set { s with world := w }
  return ok

def complain (message : String) : ShellM Unit := do
  let s ← get
  let command := match s.command with
    | some name => name ++ ": "
    | none => ""
  let _ ← writeTo 2
    (lineOf (s.name ++ ": " ++ toString s.line ++ ": " ++ command ++ message))

def fail {α : Type} (message : String) : ShellM α := do
  complain message
  throw .failed

def assign (name value : String) : ShellM Unit := do
  let s ← get
  if s.isReadOnly name then fail (name ++ ": is read only") else set (s.assign name value)

def passTo (time : Nat) : ShellM Unit := do
  modifyWorld fun w => { w with clock := max w.clock time }
  let w := (← get).world
  if w.deadline ≤ w.clock then throw .endless

def takeFrom (channel count : Nat) (toEnd : Bool) : ShellM Unit := do
  let s ← get
  let e := s.channel? channel
  set { s with world := s.world.consume e count }
  if toEnd then
    match e with
    | some (.pipe p) => match (s.world.pipes.lookup p).map (·.ends) with
      | some (some time) => if s.world.clock < time then passTo time
      | some none => throw .endless
      | none => pure ()
    | some (.device .zero) => throw .endless
    | _ => pure ()

def newPipe (content : List Char) (isFile : Bool) : ShellM Nat := do
  let s ← get
  let (n, w) := s.world.newPipe content isFile
  set { s with world := w }
  return n

end HostProbe.Posix
