import HostProbe.Node.Basic
import HostProbe.Tool.Basic

/-! # Procedures of tools

What a tool does is a sequence of operations on its node, of requests for other tools, and of looks
at the tools that are cached. A procedure does not touch the tools of the node in any other way.
Each step may fail; a procedure can go on after a failure, and it ends with a value or a fault. -/

namespace HostProbe

inductive Procedure (σ α : Type) : Type 1 where
  | done (result : Except Fault α)
  | step (β : Type) (operation : NodeM σ β) (next : Except Fault β → Procedure σ α)
  | request (wanted : ToolRequest) (next : Except Fault Tool → Procedure σ α)
  | look (next : List (String × Tool) → Procedure σ α)

namespace Procedure

variable {σ α β : Type}

def andThen (p : Procedure σ α) (f : Except Fault α → Procedure σ β) : Procedure σ β :=
  match p with
  | .done r => f r
  | .step γ operation next => .step γ operation fun r => (next r).andThen f
  | .request wanted next => .request wanted fun r => (next r).andThen f
  | .look next => .look fun tools => (next tools).andThen f

instance : Monad (Procedure σ) where
  pure a := .done (.ok a)
  bind p f := p.andThen fun
    | .ok a => f a
    | .error e => .done (.error e)

instance : MonadExceptOf Fault (Procedure σ) where
  throw e := .done (.error e)
  tryCatch p handle := p.andThen fun
    | .ok a => .done (.ok a)
    | .error e => handle e

def ofNode (operation : NodeM σ α) : Procedure σ α := .step α operation .done

instance : MonadLift (NodeM σ) (Procedure σ) := ⟨ofNode⟩

instance : MonadLift (Except Fault) (Procedure σ) := ⟨.done⟩

def tool (ref : ToolRef) : Procedure σ Tool := .request (.ofKind ref) .done

def outcome (p : Procedure σ α) : Procedure σ (Except Fault α) := p.andThen fun r => .done (.ok r)

def foldM {m : Type → Type u} [Monad m] (onStep : {β : Type} → NodeM σ β → m (Except Fault β))
    (onRequest : ToolRequest → m (Except Fault Tool)) (onLook : m (List (String × Tool))) :
    Procedure σ α → m (Except Fault α)
  | .done r => return r
  | .step _ operation next => do
    let r ← onStep operation
    (next r).foldM onStep onRequest onLook
  | .request wanted next => do
    let r ← onRequest wanted
    (next r).foldM onStep onRequest onLook
  | .look next => do
    let tools ← onLook
    (next tools).foldM onStep onRequest onLook

end Procedure

end HostProbe
