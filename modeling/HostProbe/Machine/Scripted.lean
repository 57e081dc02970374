import HostProbe.Node.Basic
import HostProbe.Text.Blank

/-! # Scripted machines

A machine that answers by rules. The first rule whose mark occurs in a command answers it; the answers
of a rule are given in order, and the last one is given again and again. What no rule answers succeeds
without output. Connecting and closing may fail, each time as the script says. -/

namespace HostProbe

open HostProbe.Text

structure ScriptRule (α : Type) where
  mark : String
  answers : List α
  deriving Repr

namespace ScriptRule

variable {α : Type}

def nextAnswer (silence : α) : List α → α × List α
  | [] => (silence, [])
  | [a] => (a, [a])
  | a :: rest => (a, rest)

def answer (silence : α) (command : String) : List (ScriptRule α) → α × List (ScriptRule α)
  | [] => (silence, [])
  | r :: rest =>
    if mentions command r.mark then
      let (a, left) := nextAnswer silence r.answers
      (a, { r with answers := left } :: rest)
    else
      let (a, rest) := answer silence command rest
      (a, r :: rest)

end ScriptRule

inductive ScriptedAnswer where
  | output (result : CommandOutput)
  | lost (message : String)
  deriving Repr

structure ScriptedMachine where
  rules : List (ScriptRule ScriptedAnswer) := []
  connects : List (Option String) := []
  closes : List (Option String) := []
  deriving Repr

namespace ScriptedMachine

def silence : ScriptedAnswer := .output ⟨0, "", ""⟩

def nextOutcome (target : String) : List (Option String) → Except Fault Unit × List (Option String)
  | [] => (.ok (), [])
  | none :: rest => (.ok (), rest)
  | some message :: rest => (.error (.transport target message), rest)

def transport (target : String) (isRemote : Bool) : Transport ScriptedMachine where
  describe := target
  isRemote := isRemote
  connect m :=
    let (r, connects) := nextOutcome target m.connects
    (r, { m with connects })
  run request m :=
    let (a, rules) := ScriptRule.answer silence request.command m.rules
    match a with
    | .output result => (.ok result, { m with rules })
    | .lost message => (.error (.transport target message), { m with rules })
  close m :=
    let (r, closes) := nextOutcome target m.closes
    (r, { m with closes })

end ScriptedMachine

end HostProbe
