import HostProbe.Proofs.Node.Replies
import HostProbe.Proofs.Tool.Operation
import HostProbe.Tool.Registry

/-! What the probe of a tool decides once its dependencies are resolved, and what the probe of a
command answers if the machine answers a command by its text alone. -/

namespace HostProbe

variable {σ α : Type}

def Procedure.Keeps (calm : NodeState σ → Prop) : Procedure σ α → Prop
  | .done _ => True
  | .step _ operation next =>
    ∀ st, calm st → calm (operation st).2 ∧ (next (operation st).1).Keeps calm
  | .request _ next => ∀ result, (next result).Keeps calm
  | .look next => ∀ tools, (next tools).Keeps calm

namespace ToolRegistry

open ToolM

variable {r : ToolRegistry σ} {n : Node σ} {os : Os} {e : ToolEntry σ}

/-- In the states `calm`, which it keeps, a probe of the tool that an entry stands for gives one
answer, and it starts no resolution. -/
def Answers (r : ToolRegistry σ) (n : Node σ) (os : Os) (calm : NodeState σ → Prop)
    (e : ToolEntry σ) (answer : Except Fault Bool) : Prop :=
  ∀ seed, e.create os r.config = .ok seed → ∀ serial resolve s, calm s.node →
    ∃ node, calm node ∧ (e.probe n (e.tool serial seed)).run resolve s = (answer, { s with node })

section Provide

variable {resolve : ToolRequest → ToolM σ Tool} {s : Equipped σ}

lemma provide_of_not_made (hos : s.node.os = some os) {f : Fault}
    (h : e.create os r.config = .error f) : r.provide e n resolve s = (.error f, s) := by
  have hn : onNode n.os s = (.ok os, s) := by
    rw [onNode_apply, Node.os_of_known hos]
  rw [provide, bind_of_ok hn, h, bind_of_error (liftM_apply _ s)]

lemma provide_of_made (hos : s.node.os = some os) {seed : ToolSeed}
    (h : e.create os r.config = .ok seed) {t : Tool} (ht : e.tool s.tools.next seed = t) :
    r.provide e n resolve s =
      match probe e n resolve t { s with tools := { s.tools with next := s.tools.next + 1 } } with
      | (.error f, s') => (.error f, s')
      | (.ok true, s') => (.ok t, s')
      | (.ok false, s') =>
        (if !seed.canInstall then throw (missing n t "not installed and cannot be installed")
        else installTool e n resolve os t : ToolM σ Tool) s' := by
  subst ht
  have hn : onNode n.os s = (.ok os, s) := by
    rw [onNode_apply, Node.os_of_known hos]
  rw [provide, bind_of_ok hn, h, bind_of_ok (liftM_apply _ s), bind_of_ok (make_apply e seed s),
    bind_apply]
  generalize probe e n resolve _ _ = out
  rcases out with ⟨_ | _ | _, s'⟩ <;> rfl

lemma provide_of_found (hos : s.node.os = some os) {seed : ToolSeed}
    (h : e.create os r.config = .ok seed) {t : Tool} (ht : e.tool s.tools.next seed = t) {s' : Equipped σ}
    (hp : probe e n resolve t { s with tools := { s.tools with next := s.tools.next + 1 } } =
      (.ok true, s')) : r.provide e n resolve s = (.ok t, s') := by
  rw [provide_of_made hos h ht, hp]

end Provide

end ToolRegistry

section Command

variable {n : Node σ} {reply : String → CommandOutput}

def Plain (os : Os) (s : NodeState σ) : Prop := s.os = some os ∧ s.env = []

variable {os : Os}

lemma Tool.keeps_probeCommand (h : n.transport.Replies reply) (hsudo : n.alwaysSudo = false)
    (t : Tool) : (Tool.probeCommand n t).Keeps (Plain os) := by
  intro s hs
  obtain ⟨s', hexists, hos, henv⟩ := Node.commandExists_of_replies h hsudo hs.2 t.command
  refine ⟨?_, trivial⟩
  change Plain os (n.commandExists t.command s).2
  rw [hexists]
  exact ⟨hos.trans hs.1, henv.trans hs.2⟩

lemma Tool.run_probeCommand (h : n.transport.Replies reply) (hsudo : n.alwaysSudo = false)
    (t : Tool) (resolve : ToolRequest → ToolM σ Tool) {s : Equipped σ} (hs : Plain os s.node) :
    ∃ node, Plain os node ∧
      (Tool.probeCommand n t).run resolve s = (finds reply t.command, { s with node }) := by
  obtain ⟨node, hexists, hos, henv⟩ := Node.commandExists_of_replies h hsudo hs.2 t.command
  refine ⟨node, ⟨hos.trans hs.1, henv.trans hs.2⟩, ?_⟩
  change ToolM.onNode (n.commandExists t.command) s = _
  rw [ToolM.onNode_apply, hexists]

def Tool.commandNeeding (command : String) (dependencies : List String) : ToolEntry σ :=
  { Tool.commandEntry ⟨command, command⟩ command none with dependencies }

lemma ToolRegistry.answers_commandNeeding (h : n.transport.Replies reply)
    (hsudo : n.alwaysSudo = false) (r : ToolRegistry σ) (command : String)
    (dependencies : List String) :
    r.Answers n os (Plain os) (Tool.commandNeeding command dependencies) (finds reply command) := by
  rintro seed ⟨⟩ serial resolve s hs
  exact Tool.run_probeCommand h hsudo _ resolve hs

end Command

end HostProbe
