import HostProbe.Cli.CommandLine
import HostProbe.Cli.Failure
import HostProbe.Cli.Screen
import HostProbe.Cli.Structured
import HostProbe.Config.Layers
import HostProbe.Machine.Local
import HostProbe.Ssh.Client
import HostProbe.Tool.BuiltIn
import HostProbe.Version.Lenient

/-! # Carrying out a command line

A run loads the configuration, connects to the node that is meant, and does what is asked for. What
it showed before a failure stays shown. -/

namespace HostProbe.Cli

structure Surroundings (σ : Type) where
  launcher : Launcher σ
  userConfig : String
  fileAt : String → Option FileContent
  environment : String → Option (List UInt8)

structure RunState (σ : Type) where
  screen : Screen := {}
  equipped : Equipped σ

abbrev RunM (σ : Type) := ExceptT Failure (StateM (RunState σ))

namespace RunM

variable {σ α : Type}

def display (f : Screen → Screen) : RunM σ Unit := modify fun s => { s with screen := f s.screen }

def outcome (a : ToolM σ α) : RunM σ (Except Fault α) := fun s =>
  let (r, equipped) := a s.equipped
  (.ok r, { s with equipped })

def orFail (fail : Fault → Failure) : Except Fault α → RunM σ α
  | .ok a => return a
  | .error f => throw (fail f)

def onTools (fail : Fault → Failure) (a : ToolM σ α) : RunM σ α := do orFail fail (← outcome a)

def onNode (fail : Fault → Failure) (a : NodeM σ α) : RunM σ α := onTools fail (ToolM.onNode a)

end RunM

open RunM

section

variable {σ : Type}

def showVersion (text : String) (structured : Bool) : RunM σ Unit := do
  let v ← orFail (Failure.during ("Failed to parse \x60" ++ text ++ "\x60")) (Version.parse text)
  if structured then
    display (·.line (Structured.pretty (.record [
      ("build", .ofOption v.build), ("major", .number v.major.toNat),
      ("minor", .number v.minor.toNat), ("patch", .number v.patch.toNat),
      ("prerelease", .ofOption v.prerelease), ("version", .text v.text)])))
  else
    display (·.heading v.text)
    display (·.entry "Major" (toString v.major.toNat))
    display (·.entry "Minor" (toString v.minor.toNat))
    display (·.entry "Patch" (toString v.patch.toNat))
    v.prerelease.forM fun pre => display (·.entry "Prerelease" pre)
    v.build.forM fun build => display (·.entry "Build" build)

def loadConfig (w : Surroundings σ) (named : Option String) : RunM σ Config :=
  orFail (Failure.during "Failed to load configuration") (Config.load {
    userPath := w.userConfig
    user := w.fileAt w.userConfig
    named := named.map fun path => (path, w.fileAt path)
    environment := w.environment })

def toolEntries (r : ToolRegistry σ) : Except Fault (List (String × List String)) :=
  r.ids.mapM fun id => do return (id, ← r.dependencies id)

def toolLine (id : String) (dependencies : List String) : String :=
  "  " ++ Style.cyan.paint id ++
    if dependencies.isEmpty then ""
    else " " ++ Style.dimmed.paint ("(needs " ++ String.intercalate ", " dependencies ++ ")")

def listTools (w : Surroundings σ) (named : Option String) (structured : Bool) : RunM σ Unit := do
  let c ← loadConfig w named
  let entries ← orFail Failure.ofFault (toolEntries (ToolRegistry.builtIn (σ := σ) c))
  if structured then
    display (·.line (Structured.pretty (.list (entries.map fun (id, dependencies) =>
      .record [("id", .text id), ("dependencies", .list (dependencies.map .text))]))))
  else
    display (·.heading "Built-in tools")
    entries.forM fun (id, dependencies) => display (·.line (toolLine id dependencies))

def TargetOptions.settings (t : TargetOptions) (d : SshSettings) : SshSettings :=
  { d with
    port := t.port.getD d.port
    username := t.user.getD d.username
    privateKeyFile := match t.key with
      | some key => some key
      | none => d.privateKeyFile }

def nodeOf (l : Launcher σ) (t : TargetOptions) (c : Config) : Node σ :=
  let n := match t.host with
    | some host => Node.remote l ⟨host, t.settings c.ssh⟩
    | none => Node.local l
  { n with timeoutMs := c.execution.timeoutSecs.toNat * 1000, alwaysSudo := c.execution.asRoot }

def connectTo (l : Launcher σ) (t : TargetOptions) (c : Config) : RunM σ (Node σ) := do
  let n := nodeOf l t c
  onNode (Failure.during ("Failed to connect to " ++ n.transport.describe)) n.connect
  return n

def leave (n : Node σ) : RunM σ Unit := onNode Failure.ofFault n.close

def showNode (n : Node σ) (os : Os) (manager : Option String) (asRoot structured : Bool) :
    RunM σ Unit :=
  if structured then
    display (·.line (Structured.pretty (.record [
      ("node", .text n.name),
      ("remote", .bool n.transport.isRemote),
      ("os", .record [("family", .text os.family.key), ("name", .text os.name),
        ("id", .text os.id), ("version", .text os.version.text)]),
      ("package_manager", .ofOption manager),
      ("sudo", .bool asRoot)])))
  else do
    display (·.heading ("Node " ++ n.transport.describe))
    display (·.entry "OS" os.name)
    display (·.entry "ID" os.id)
    display (·.entry "Family" os.family.text)
    display (·.entry "Version" os.version.text)
    display (·.entry "Package manager" (manager.getD (Style.red.paint "unsupported")))
    display (·.entry "Sudo" (if asRoot then "yes" else "no"))

def detect (w : Surroundings σ) (c : CommandLine) (structured : Bool) : RunM σ Unit := do
  let config ← loadConfig w c.config
  let n ← connectTo w.launcher c.target config
  let os ← onNode Failure.ofFault n.os
  let manager ← outcome (ToolM.onNode n.packageManager)
  let asRoot ← onNode Failure.ofFault n.supportsSudo
  showNode n os (manager.toOption.map (·.text)) asRoot structured
  leave n

def resolveAll (r : ToolRegistry σ) (n : Node σ) (keepGoing : Bool) :
    List String → RunM σ (List String)
  | [] => return []
  | id :: ids => do
    match ← outcome (r.resolveById n id) with
    | .ok tool =>
      display (·.success (id ++ " " ++ Style.dimmed.paint ("(" ++ tool.command ++ ")")))
      resolveAll r n keepGoing ids
    | .error f =>
      if keepGoing then
        display (·.failure (id ++ ": " ++ f.message))
        return id :: (← resolveAll r n keepGoing ids)
      else
        leave n
        throw (Failure.during ("Failed to resolve " ++ id) f)

def resolve (w : Surroundings σ) (c : CommandLine) (ids : List String) (keepGoing : Bool) :
    RunM σ Unit := do
  let config ← loadConfig w c.config
  let n ← connectTo w.launcher c.target config
  display (·.heading ("Resolving tools on " ++ n.transport.describe))
  let failed ← resolveAll (ToolRegistry.builtIn config) n keepGoing ids
  leave n
  if !failed.isEmpty then throw ⟨"Failed to resolve " ++ String.intercalate ", " failed, []⟩

def kdumpStep (r : ToolRegistry σ) (n : Node σ) (s : KdumpSession) :
    KdumpStep → RunM σ KdumpSession
  | .configure => do
    let s ← onTools (Failure.during "Failed to configure kdump") (r.perform n (s.configure n))
    display (·.success "kdump configured")
    display (·.hint ("Reboot the node, then run " ++
      Style.cyan.paint (programName ++ " kdump verify-loaded")))
    return s
  | .verifyLoaded => do
    let s ← onTools (Failure.during "The crash kernel is not loaded")
      (r.perform n (s.verifyLoaded n r.config))
    display (·.success "Crash kernel loaded")
    display (·.hint ("Trigger a kernel panic, then run " ++
      Style.cyan.paint (programName ++ " kdump verify-dump")))
    return s
  | .verifyDump => do
    let s ← onTools (Failure.during "No crash dump found") (r.perform n (s.verifyDump n))
    let state := (← get).equipped.node
    display (·.success ("vmcore found in " ++ s.kdump.dumpPathIn state))
    return s

def checkKdump (w : Surroundings σ) (c : CommandLine) (step : KdumpStep)
    (crashkernel : Option String) : RunM σ Unit := do
  let config ← loadConfig w c.config
  let r := ToolRegistry.builtIn config
  let n ← connectTo w.launcher c.target config
  let describe := n.transport.describe
  let s ← onTools (Failure.during ("kdump is not available on " ++ describe))
    (r.perform n (KdumpSession.start config crashkernel))
  display (·.heading ("kdump on " ++ describe))
  display (·.entry "Service" s.kdump.variant.hooks.service)
  display (·.entry "Crash kernel" s.crashkernel)
  let s ← kdumpStep r n s step
  display (·.entry "State" s.progress.text)
  leave n

def carryOut (w : Surroundings σ) (c : CommandLine) : RunM σ Unit :=
  match c.action with
  | .version text structured => showVersion text structured
  | .detect structured => detect w c structured
  | .tools structured => listTools w c.config structured
  | .resolve ids keepGoing => resolve w c ids keepGoing
  | .kdump step crashkernel => checkKdump w c step crashkernel

inductive Ending where
  | done
  | failed (f : Failure)
  | stopped (s : Stop)
  deriving DecidableEq, Repr

def Ending.exitCode : Ending → Nat
  | .done => 0
  | .failed _ => 1
  | .stopped .usage => 2
  | .stopped _ => 0

def versionLine (path : List String) : String :=
  String.intercalate "-" path ++ " " ++ programVersion

def run (w : Surroundings σ) (args : List String) (machine : σ) : Ending × Screen × σ :=
  match CommandLine.read args with
  | .error (.version path) =>
    (.stopped (.version path), ({} : Screen).line (versionLine path), machine)
  | .error s => (.stopped s, {}, machine)
  | .ok c =>
    let (r, s) := (carryOut w c).run { equipped := { node := { machine } } }
    (match r with
      | .ok () => .done
      | .error f => .failed f, s.screen, s.equipped.node.machine)

end

end HostProbe.Cli
