import HostProbe.Log
import HostProbe.Node.Command
import HostProbe.Node.Environment
import HostProbe.Once
import HostProbe.Package.Kind

/-! # Nodes

A node is a machine that is reached by a transport. What is known of it and stored for it is a state
that its operations hand on, also when they fail. The machine behind the transport has a state of
any type; only the transport's three functions see it. -/

namespace HostProbe

structure Transport (σ : Type) where
  describe : String
  isRemote : Bool
  connect : σ → Except Fault Unit × σ
  run : CommandRequest → σ → Except Fault CommandOutput × σ
  close : σ → Except Fault Unit × σ

inductive Contact where
  | connect
  | close
  | run (request : CommandRequest)
  deriving DecidableEq, Repr

structure Node (σ : Type) where
  name : String
  transport : Transport σ
  timeoutMs : Nat := 600000
  alwaysSudo : Bool := false

structure NodeState (σ : Type) where
  machine : σ
  connection : Once := .fresh
  os : Option Os := none
  packages : Option (PackageKind × Once) := none
  sudoSupported : Option Bool := none
  results : List (String × ExecutionResult) := []
  workingDir : Option String := none
  env : Environment := []
  dumpPaths : List (Nat × String) := []
  clock : Nat := 0
  contacts : List Contact := []
  logs : List LogEvent := []

abbrev NodeM (σ : Type) := ExceptT Fault (StateM (NodeState σ))

namespace NodeM

variable {σ : Type}

def log (level : LogLevel) (message : String) (fields : List (String × String)) : NodeM σ Unit :=
  modify fun s => { s with logs := s.logs ++ [⟨level, message, fields⟩] }

def contact (c : Contact) : NodeM σ Unit :=
  modify fun s => { s with contacts := s.contacts ++ [c], clock := s.clock + 1 }

def onMachine {α : Type} (f : σ → Except Fault α × σ) : NodeM σ α := fun s =>
  let (r, machine) := f s.machine
  (r, { s with machine })

def wait (ms : Nat) : NodeM σ Unit := modify fun s => { s with clock := s.clock + ms }

def outcome {α : Type} (a : NodeM σ α) : NodeM σ (Except Fault α) :=
  tryCatch (Except.ok <$> a) fun e => return .error e

end NodeM

open NodeM

namespace Node

variable {σ : Type} (n : Node σ)

def connect : NodeM σ Unit := fun s =>
  Once.ensure NodeState.connection (fun connection s => { s with connection })
    (do contact .connect; onMachine n.transport.connect : NodeM σ Unit) s

def close : NodeM σ Unit := do
  if (← get).connection.done then
    modify fun s => { s with connection := .fresh, results := [] }
    contact .close
    onMachine n.transport.close

def run (request : CommandRequest) : NodeM σ CommandOutput := do
  contact (.run request)
  onMachine (n.transport.run request)

def field : String × String := ("node", n.name)

def shown (s : NodeState σ) : String :=
  "Node \x7b name: " ++ Text.quoted n.name ++ ", target: " ++ Text.quoted n.transport.describe ++
    ", os: " ++ (match s.os with
      | some os => "Some(" ++ os.shown ++ ")"
      | none => "None") ++ ", .. \x7d"

def setWorkingDir (dir : Option String) : NodeM σ Unit :=
  modify fun s => { s with workingDir := dir }

def updateEnv (name value : String) : NodeM σ Unit :=
  modify fun s => { s with env := s.env.define name value }

end Node

end HostProbe
