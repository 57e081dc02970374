import HostProbe.Node.Execute

/-! # Services and kernel parameters -/

namespace HostProbe

open HostProbe.Text

variable {σ : Type} (n : Node σ)

namespace Service

def control (action name : String) : NodeM σ Unit := do
  let arg ← Shell.quote name
  let opts : ExecOptions := { asRoot := true }
  let _ ← n.execute ("systemctl " ++ action ++ " " ++ arg)
    (opts.successOr ("failed to " ++ action ++ " service " ++ name))

def enable (name : String) : NodeM σ Unit := control n "enable" name

def restart (name : String) : NodeM σ Unit := control n "restart" name

def stop (name : String) : NodeM σ Unit := control n "stop" name

def query (question name : String) : NodeM σ ExecutionResult := do
  let arg ← Shell.quote name
  n.execute ("systemctl " ++ question ++ " " ++ arg) (ExecOptions.quiet { asRoot := true })

def isEnabled (name : String) : NodeM σ Bool := do return (← query n "is-enabled" name).isSuccess

def isRunning (name : String) : NodeM σ Bool := do return (← query n "is-active" name).isSuccess

def notFound : Int := 4

def isKnown (name : String) : NodeM σ Bool := do
  let result ← query n "--full --no-pager status" name
  return result.exitCode != notFound && !mentions result.stderr "could not be found"

end Service

namespace Sysctl

def write (variableName value : String) : NodeM σ Unit := do
  let assignment := variableName ++ "=" ++ value
  let arg ← Shell.quote assignment
  let opts : ExecOptions := { asRoot := true }
  let _ ← n.execute ("sysctl -w " ++ arg) (opts.successOr ("failed to set " ++ assignment))

def get (variableName : String) : NodeM σ String := do
  let arg ← Shell.quote variableName
  let opts : ExecOptions := { noInfoLog := true }
  let result ← n.execute ("sysctl -n " ++ arg) (opts.successOr ("failed to read " ++ variableName))
  return result.stdout

end Sysctl

end HostProbe
