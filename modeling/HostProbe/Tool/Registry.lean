import HostProbe.Package.Install
import HostProbe.Tool.Procedure

/-! # The registry of tools

A tool of a node is resolved once. Its dependencies are resolved first; then it is made for the
operating system, probed, and if it is missing and can be installed, installed and probed again.
Only a tool whose last probe found it gets into the cache. While an id is being resolved it is
marked, so that a dependency on itself is a fault and not a loop. Most tools are there when the shell
finds their command, and some of these come with a package. -/

namespace HostProbe

open NodeM

structure ToolEntry (σ : Type) where
  ref : ToolRef
  dependencies : List String
  create : Os → Config → Except Fault ToolSeed
  probe : Node σ → Tool → Procedure σ Bool
  install : Node σ → Tool → Procedure σ Unit

def ToolEntry.tool {σ : Type} (e : ToolEntry σ) (serial : Nat) (seed : ToolSeed) : Tool :=
  ⟨e.ref.id, e.ref.implementation, serial, seed.command, seed.canInstall, seed.detail⟩

structure ToolRegistry (σ : Type) where
  entries : List (ToolEntry σ) := []
  config : Config := {}

structure Equipped (σ : Type) where
  node : NodeState σ
  tools : ToolCache := {}

abbrev ToolM (σ : Type) := ExceptT Fault (StateM (Equipped σ))

namespace ToolM

variable {σ α : Type}

def onNode (operation : NodeM σ α) : ToolM σ α := fun s =>
  let (r, node) := operation s.node
  (r, { s with node })

def report (level : LogLevel) (message : String) (fields : List (String × String)) : ToolM σ Unit :=
  onNode (log level message fields)

def getTools : ToolM σ ToolCache := do return (← get).tools

def modifyTools (f : ToolCache → ToolCache) : ToolM σ Unit :=
  modify fun s => { s with tools := f s.tools }

def outcome (a : ToolM σ α) : StateM (Equipped σ) (Except Fault α) := a

end ToolM

def Procedure.run {σ α : Type} (resolve : ToolRequest → ToolM σ Tool) (p : Procedure σ α) :
    ToolM σ α :=
  p.foldM (m := StateM (Equipped σ)) (fun operation => (ToolM.onNode operation).outcome)
    (fun wanted => (resolve wanted).outcome) (return (← get).tools.resolved)

namespace ToolRegistry

open ToolM

variable {σ : Type} (r : ToolRegistry σ)

def register (e : ToolEntry σ) : ToolRegistry σ :=
  { r with entries := r.entries.filter (·.ref.id ≠ e.ref.id) ++ [e] }

def find? (id : String) : Option (ToolEntry σ) := r.entries.find? (·.ref.id == id)

def contains (id : String) : Bool := (r.find? id).isSome

def ids : List String := (r.entries.map (·.ref.id)).mergeSort (decide <| · ≤ ·)

def dependencies (id : String) : Except Fault (List String) :=
  match r.find? id with
  | some e => .ok e.dependencies
  | none => .error (.unknownTool id)

def shown : String := "ToolRegistry \x7b tools: " ++ Text.quotedList r.ids ++ ", .. \x7d"

def make (e : ToolEntry σ) (seed : ToolSeed) : ToolM σ Tool := do
  let serial := (← getTools).next
  modifyTools fun c => { c with next := c.next + 1 }
  return e.tool serial seed

def probe (e : ToolEntry σ) (n : Node σ) (resolve : ToolRequest → ToolM σ Tool) (t : Tool) :
    ToolM σ Bool := (e.probe n t).run resolve

def missing (n : Node σ) (t : Tool) (how : String) : Fault :=
  .missingCapability t.id n.name ("`" ++ t.command ++ "` is " ++ how)

def installTool (e : ToolEntry σ) (n : Node σ) (resolve : ToolRequest → ToolM σ Tool) (os : Os)
    (t : Tool) : ToolM σ Tool := do
  report .info "installing tool" [n.field, ("tool", t.id), ("os", os.text)]
  (e.install n t).run resolve
  if ← probe e n resolve t then
    report .info "tool installed" [n.field, ("tool", t.id)]
    return t
  else throw (missing n t "still missing after installation")

def provide (e : ToolEntry σ) (n : Node σ) (resolve : ToolRequest → ToolM σ Tool) : ToolM σ Tool := do
  let os ← onNode n.os
  let t ← make e (← e.create os r.config)
  if ← probe e n resolve t then return t
  else if !t.canInstall then
    throw (missing n t "not installed and cannot be installed")
  else installTool e n resolve os t

def resolveAs (resolve : String → ToolM σ Tool) (ref : ToolRef) : ToolM σ Tool :=
  match r.find? ref.id with
  | none => throw (.unknownTool ref.id)
  | some e =>
    if e.ref.implementation ≠ ref.implementation then throw (.toolTypeMismatch ref.id)
    else do
      let t ← resolve ref.id
      if t.implementation ≠ ref.implementation then throw (.toolTypeMismatch ref.id)
      return t

def marked (id : String) (a : ToolM σ Tool) : ToolM σ Tool := do
  modifyTools (·.begin id)
  let result ← (ExceptT.lift a.outcome : ToolM σ (Except Fault Tool))
  modifyTools (·.finish id)
  result

def resolveAll (resolve : String → ToolM σ Tool) : List String → ToolM σ Unit
  | [] => return ()
  | id :: rest => do
    let _ ← resolve id
    resolveAll resolve rest

def supply (resolve : String → ToolM σ Tool) : ToolRequest → ToolM σ Tool
  | .ofKind ref => r.resolveAs resolve ref
  | .ofId id => resolve id

def obtain (e : ToolEntry σ) (n : Node σ) (inner : String → ToolM σ Tool) : ToolM σ Tool := do
  resolveAll inner e.dependencies
  r.provide e n (r.supply inner)

def resolveWith (n : Node σ) (inner : String → ToolM σ Tool) (id : String) : ToolM σ Tool :=
  match r.find? id with
  | none => throw (.unknownTool id)
  | some e => do
    let tools ← getTools
    match tools.find? id with
    | some t => return t
    | none =>
      if id ∈ tools.resolving then throw (.circularDependency id)
      else
        let t ← marked id (r.obtain e n inner)
        modifyTools (·.insert id t)
        return t

def resolveUpTo (n : Node σ) (bottom : String → ToolM σ Tool) : Nat → String → ToolM σ Tool
  | 0 => bottom
  | depth + 1 => r.resolveWith n (resolveUpTo n bottom depth)

/-- How deep resolutions can be inside one another: each marks an id of its own, and the last finds
its id marked. -/
def depthLimit : Nat := r.entries.length + 1

def resolveById (n : Node σ) : String → ToolM σ Tool :=
  r.resolveUpTo n (fun id => throw (.circularDependency id)) r.depthLimit

def resolve (n : Node σ) (ref : ToolRef) : ToolM σ Tool := r.resolveAs (r.resolveById n) ref

def perform {α : Type} (n : Node σ) (p : Procedure σ α) : ToolM σ α :=
  p.run (r.supply (r.resolveById n))

/-- Probes a cached tool again and takes it out of the cache if it is gone; a tool that is not
cached counts as gone. -/
def recheck (n : Node σ) (id : String) : ToolM σ Bool :=
  match r.find? id with
  | none => return false
  | some e => do
    match (← getTools).find? id with
    | none => return false
    | some t =>
      let present ← probe e n (r.supply (r.resolveById n)) t
      if present then return true
      else
        report .warning "cached tool is gone, evicting" [n.field, ("tool", id)]
        modifyTools (·.erase id)
        return false

end ToolRegistry

namespace Tool

variable {σ : Type}

def probeCommand (n : Node σ) (t : Tool) : Procedure σ Bool := n.commandExists t.command

def refuseInstall (n : Node σ) (t : Tool) : Procedure σ Unit :=
  throw (.missingCapability t.id n.name "installation is not supported")

def installPackages (packages : List String) (n : Node σ) (_ : Tool) : Procedure σ Unit :=
  n.installPackages packages

def commandEntry (ref : ToolRef) (command : String) (package : Option String) : ToolEntry σ where
  ref := ref
  dependencies := []
  create _ _ := .ok ⟨command, package.isSome, .plain⟩
  probe := probeCommand
  install := match package with
    | some p => installPackages [p]
    | none => refuseInstall

end Tool

end HostProbe
