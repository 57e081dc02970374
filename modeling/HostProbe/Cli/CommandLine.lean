import HostProbe.Cli.Grammar
import HostProbe.Decimal.Integer
import HostProbe.Kdump.Session

/-! # The command line

What a caller can ask for: a version text to be read, the operating system of a node, the known
tools, tools to be made ready, and the steps of checking crash dumps. A node is chosen by options
that can stand at every level; the deepest one counts. -/

namespace HostProbe.Cli

structure TargetOptions where
  host : Option String := none
  port : Option UInt16 := none
  user : Option String := none
  key : Option String := none
  deriving DecidableEq, Repr

inductive KdumpStep where
  | configure
  | verifyLoaded
  | verifyDump
  deriving DecidableEq, Repr

inductive Action where
  | version (text : String) (structured : Bool)
  | detect (structured : Bool)
  | tools (structured : Bool)
  | resolve (ids : List String) (keepGoing : Bool)
  | kdump (step : KdumpStep) (crashkernel : Option String)
  deriving DecidableEq, Repr

structure CommandLine where
  action : Action
  target : TargetOptions := {}
  config : Option String := none
  deriving DecidableEq, Repr

def port? (s : String) : Option UInt16 :=
  match Decimal.readSigned? (Nat.pow 2 63) s.toList with
  | some n => if 0 ≤ n ∧ n < UInt16.size then some (UInt16.ofNat n.toNat) else none
  | none => none

def textOption (name : String) : OptionRule := { name, kind := .valued fun _ => true }

def globalOptions : List OptionRule := [
  { name := "verbose", letter := some 'v', kind := .counted },
  { name := "quiet", letter := some 'q', kind := .flag },
  { textOption "config" with letter := some 'c' },
  textOption "host",
  { name := "port", kind := .valued fun s => (port? s).isSome, needs := some "host" },
  { textOption "user" with needs := some "host" },
  { textOption "key" with needs := some "host" }]

def flagOption (name : String) : OptionRule := { name, kind := .flag }

def commandWith (name : String) (options : List OptionRule) (arguments : ArgumentRule) : Grammar :=
  .command name (globalOptions ++ options) arguments []

def programName : String := "vmcheck"

def programVersion : String := "0.3.0"

def grammar : Grammar :=
  .command programName globalOptions .none [
    commandWith "version" [flagOption "json"] .one,
    commandWith "detect" [flagOption "json"] .none,
    commandWith "tools" [flagOption "json"] .none,
    commandWith "resolve" [flagOption "keep-going"] .many,
    .command "kdump" globalOptions .none [
      commandWith "configure" [textOption "crashkernel"] .none,
      commandWith "verify-loaded" [textOption "crashkernel"] .none,
      commandWith "verify-dump" [] .none]]

def usage : String := String.intercalate "\n" [
  "Usage: vmcheck [OPTIONS] COMMAND",
  "",
  "Commands:",
  "  version TEXT [--json]         Parse a version text",
  "  detect [--json]               Detect the operating system of the node",
  "  tools [--json]                List the built-in tools",
  "  resolve ID... [--keep-going]  Resolve tools on the node",
  "  kdump configure [--crashkernel VALUE]",
  "  kdump verify-loaded [--crashkernel VALUE]",
  "  kdump verify-dump             Configure and verify crash dumps",
  "",
  "Options:",
  "  -v, --verbose      Increase verbosity",
  "  -q, --quiet        Only log errors",
  "  -c, --config FILE  Extra configuration file",
  "  --host HOST        Remote host reached over ssh",
  "  --port PORT, --user USER, --key FILE",
  "  -h, --help, -V, --version"]

def actionOf : List (String × Level) → Option Action
  | [_, ("version", l)] => some (.version (l.arguments.headD "") (l.has "json"))
  | [_, ("detect", l)] => some (.detect (l.has "json"))
  | [_, ("tools", l)] => some (.tools (l.has "json"))
  | [_, ("resolve", l)] => some (.resolve l.arguments (l.has "keep-going"))
  | [_, _, ("configure", l)] => some (.kdump .configure (l.value? "crashkernel"))
  | [_, _, ("verify-loaded", l)] => some (.kdump .verifyLoaded (l.value? "crashkernel"))
  | [_, _, ("verify-dump", _)] => some (.kdump .verifyDump none)
  | _ => none

def globalValue? (levels : List (String × Level)) (name : String) : Option String :=
  levels.reverse.findSome? (·.2.value? name)

def CommandLine.read (args : List String) : Except Stop CommandLine := do
  let levels ← grammar.read args
  match actionOf levels with
  | none => .error .usage
  | some action =>
    let value? := globalValue? levels
    return {
      action
      target := {
        host := value? "host", port := (value? "port").bind port?, user := value? "user"
        key := value? "key" }
      config := value? "config" }

end HostProbe.Cli
