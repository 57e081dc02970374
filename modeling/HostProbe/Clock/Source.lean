import HostProbe.Poll
import HostProbe.Tool.Files
import HostProbe.Tool.Procedure

/-! # Clock sources

The kernel names the source in use and those that are available. When the source in use is unbound,
the kernel has to go over to another one that was available. -/

namespace HostProbe.Clock

open HostProbe.Text NodeM

variable {σ : Type} (n : Node σ)

def folder : String := "/sys/devices/system/clocksource/clocksource0/"

def readFile (name : String) : Procedure σ String := do
  let _ ← Procedure.tool .cat
  Cat.read n (folder ++ name) false true

def current : Procedure σ String := readFile n "current_clocksource"

def available : Procedure σ (List String) := do
  return wordsOf (← readFile n "available_clocksource")

def canUnbind : NodeM σ Bool := n.pathExists (folder ++ "unbind_clocksource")

def reading : Procedure σ Reading := do
  wait (σ := σ) 1
  match ← (current n).outcome with
  | .ok source => return .ok source
  | .error e => return .error e.message

def elapsedSince (start : Nat) : Procedure σ Nat :=
  Procedure.ofNode (σ := σ) do return (← get).clock - start

def waitFor (settings : PollingSettings) (expected : Expected) : Procedure σ Bool := do
  let start ← elapsedSince 0
  let poll := Poller.start expected settings.intervalMs.toNat (settings.timeoutSecs.toNat * 1000)
  let poll ← Poller.follow (reading n) (elapsedSince start) (fun ms => Procedure.ofNode (wait ms))
    Poller.readLimit poll
  if poll.state = .matched then return true
  else
    let event := poll.timeoutEvent
    log (σ := σ) event.level event.message event.fields
    return false

/-- Unbinds the source in use and tells the one that the kernel goes over to; with only one source
nothing is done. -/
def unbindCurrent (settings : PollingSettings) : Procedure σ (Option String) := do
  let source ← current n
  let others := (← available n).filter (· ≠ source)
  if others.isEmpty then
    log (σ := σ) .info "only one clock source, not unbinding" [n.field, ("clocksource", source)]
    return none
  else
    let arg ← Shell.quote source
    let opts : ExecOptions := { asRoot := true, shell := true }
    let _ ← n.execute ("echo " ++ arg ++ " > " ++ folder ++ "unbind_clocksource")
      (opts.successOr ("failed to unbind " ++ source))
    let expected := Expected.anyOf others
    if ← waitFor n settings expected then some <$> current n
    else throw (.conditionNotMet ("after unbinding " ++ source ++
      " the current clock source did not switch to " ++ expected.text))

end HostProbe.Clock
