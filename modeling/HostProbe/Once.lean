/-! # Things that are done once

A guard remembers whether its setup was done. It is marked before the setup runs, so that a request
made by the setup itself finds it done, and unmarked when the setup fails, so that the next request
tries again. -/

namespace HostProbe

structure Once where
  done : Bool
  deriving DecidableEq, Repr, Inhabited

namespace Once

def fresh : Once := ⟨false⟩

variable {ε σ : Type}

def ensure (view : σ → Once) (mark : Once → σ → σ) (setup : σ → Except ε Unit × σ) (s : σ) :
    Except ε Unit × σ :=
  if (view s).done then (.ok (), s)
  else match setup (mark ⟨true⟩ s) with
    | (.ok (), s') => (.ok (), s')
    | (.error e, s') => (.error e, mark ⟨false⟩ s')

end Once

end HostProbe

/-! ## Programs over one guard

A program is a list of requests and resets of one guard. The setup of a request may itself run a
program over the same guard before it succeeds or fails; the results of that inner program are not
looked at. Running a program records which setups began, in order. -/

namespace HostProbe.Once

inductive Step (ε : Type) where
  | reset
  | request (name : String) (inner : List (Step ε)) (outcome : Except ε Unit)

instance {ε : Type} : Inhabited (Step ε) := ⟨.reset⟩

structure Trace where
  guard : Once
  ran : List String
  deriving DecidableEq, Repr

inductive Answer (ε : Type) where
  | reset
  | request (result : Except ε Unit)

variable {ε : Type}

mutual

def Step.run : Step ε → Trace → Answer ε × Trace
  | .reset, t => (.reset, { t with guard := fresh })
  | .request name inner outcome, t =>
    let (result, t) := ensure Trace.guard (fun g t => { t with guard := g })
      (fun t => (outcome, Step.runAll inner { t with ran := t.ran ++ [name] })) t
    (.request result, t)

def Step.runAll : List (Step ε) → Trace → Trace
  | [], t => t
  | s :: rest, t => Step.runAll rest (s.run t).2

end

end HostProbe.Once
