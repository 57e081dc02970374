/-! # Faults

Why an operation on a node, a tool or a configuration did not succeed. A fault keeps the data of its
cause; the wording is one function. -/

namespace HostProbe

inductive Fault where
  | unsupportedDistro (name version extra : String)
  | unsupportedArch (arch : String)
  | missingCapability (tool node reason : String)
  | missingPackages (packages : List String)
  | execution (command : String) (exitCode : Int) (message stderr : String)
  | transport (target message : String)
  | invalidVersion (text : String)
  | conditionNotMet (message : String)
  | unknownTool (id : String)
  | toolTypeMismatch (id : String)
  | circularDependency (id : String)
  | invalidArgument (message : String)
  | configNotFound (path : String)
  | invalidConfig (message : String)
  | yamlSyntax (message : String)
  | io (message : String)
  deriving DecidableEq, Repr, Inhabited

namespace Fault

def appended (lead text : String) : String := if text.isEmpty then "" else lead ++ text

def message : Fault → String
  | .unsupportedDistro name version extra =>
    "Unsupported distro " ++ name ++ " " ++ version ++ appended ". " extra
  | .unsupportedArch arch => "Unsupported CPU architecture " ++ arch
  | .missingCapability tool node reason =>
    "Tool '" ++ tool ++ "' is not available on node '" ++ node ++ "': " ++ reason
  | .missingPackages packages =>
    "Package manager could not install packages: " ++ String.intercalate " " packages
  | .execution command exitCode message stderr =>
    message ++ " (command: `" ++ command ++ "`, exit code: " ++ toString exitCode ++ ")" ++
      appended ": " stderr
  | .transport target message => "Transport error on " ++ target ++ ": " ++ message
  | .invalidVersion text => "The version is invalid format: " ++ text
  | .conditionNotMet message => "Condition not met: " ++ message
  | .unknownTool id => "Unknown tool: " ++ id
  | .toolTypeMismatch id => "Tool '" ++ id ++ "' is registered with a different implementation type"
  | .circularDependency id => "Circular dependency detected while resolving tool '" ++ id ++ "'"
  | .invalidArgument message => "Invalid argument: " ++ message
  | .configNotFound path => "Configuration file not found: " ++ path
  | .invalidConfig message => "Invalid configuration format: " ++ message
  | .yamlSyntax message => "YAML parsing error: " ++ message
  | .io message => "IO error: " ++ message

def withExtra (extra : String) : Fault → Fault
  | .unsupportedDistro name version _ => .unsupportedDistro name version extra
  | fault => fault

def isConditionNotMet : Fault → Bool
  | .conditionNotMet _ => true
  | _ => false

def isExecution : Fault → Bool
  | .execution .. => true
  | _ => false

def source? : Fault → Option String
  | .yamlSyntax message => some message
  | .io message => some message
  | _ => none

end Fault

end HostProbe
