import HostProbe.Proofs.Node.Beside
import HostProbe.Proofs.Tool.Operation

/-! What happens to the tools of a node, as a record that is kept beside the machine. The entries of a
recorded registry run the procedures of the entries that they stand for and note how each probe ended;
the procedures do not see the record. A recorded run comes to the same as the run without the record, and
it only adds events. -/

namespace HostProbe

variable {σ ρ α β : Type}

inductive ToolEvent where
  | probed (id : String) (answer : Except Fault Bool)
  | resolved (id : String) (outcome : Except Fault Tool)

namespace Procedure

def beside : Procedure σ α → Procedure (σ × ρ) α
  | .done result => .done result
  | .step β operation next => .step β operation.beside fun r => (next r).beside
  | .request wanted next => .request wanted fun r => (next r).beside
  | .look next => .look fun tools => (next tools).beside

end Procedure

namespace Equipped

def recording (s : Equipped σ) (events : List ToolEvent) : Equipped (σ × List ToolEvent) where
  node := s.node.beside events
  tools := s.tools

def events (s : Equipped (σ × List ToolEvent)) : List ToolEvent := s.node.machine.2

def alone (s : Equipped (σ × List ToolEvent)) : Equipped σ where
  node := s.node.alone
  tools := s.tools

end Equipped

def note (x : ToolEvent) : NodeM (σ × List ToolEvent) Unit :=
  modify fun s => { s with machine := (s.machine.1, s.machine.2 ++ [x]) }

/-- The same entry, with a note of how each probe ends; the steps of the probe do not see the notes. -/
def ToolEntry.recorded (e : ToolEntry σ) (n : Node σ) : ToolEntry (σ × List ToolEvent) where
  ref := e.ref
  dependencies := e.dependencies
  create := e.create
  probe _ t := (e.probe n t).beside.andThen fun answer => do
    note (σ := σ) (.probed e.ref.id answer)
    liftM answer
  install _ t := (e.install n t).beside

def ToolRegistry.recorded (r : ToolRegistry σ) (n : Node σ) : ToolRegistry (σ × List ToolEvent) where
  entries := r.entries.map (·.recorded n)
  config := r.config

namespace ToolRegistry

def noted (id : String) (a : ToolM (σ × List ToolEvent) Tool) : ToolM (σ × List ToolEvent) Tool := do
  let outcome ← (ExceptT.lift a.outcome : ToolM (σ × List ToolEvent) (Except Fault Tool))
  ToolM.onNode (note (.resolved id outcome))
  outcome

/-- Resolves as the recorded registry does, and notes how each resolution ends, those inside others
too. -/
def journal (r : ToolRegistry σ) (n : Node σ) : Nat → String → ToolM (σ × List ToolEvent) Tool
  | 0, id => noted id (throw (.circularDependency id))
  | depth + 1, id => noted id ((r.recorded n).resolveWith n.beside (journal r n depth) id)

lemma find?_recorded (r : ToolRegistry σ) (n : Node σ) (id : String) :
    (r.recorded n).find? id = (r.find? id).map (·.recorded n) := by
  rw [ToolRegistry.find?, ToolRegistry.recorded, List.find?_map]
  rfl

lemma find?_recorded_of_none {r : ToolRegistry σ} {n : Node σ} {id : String} (h : r.find? id = none) :
    (r.recorded n).find? id = none := by
  rw [find?_recorded, h]
  rfl

lemma find?_recorded_of_some {r : ToolRegistry σ} {n : Node σ} {id : String} {e : ToolEntry σ}
    (h : r.find? id = some e) : (r.recorded n).find? id = some (e.recorded n) := by
  rw [find?_recorded, h]
  rfl

lemma probe_recorded {e : ToolEntry σ} {n : Node σ}
    (resolve : ToolRequest → ToolM (σ × List ToolEvent) Tool) (t : Tool)
    (s : Equipped (σ × List ToolEvent)) :
    probe (e.recorded n) n.beside resolve t s =
      let out := (e.probe n t).beside.run resolve s
      (out.1, (ToolM.onNode (note (.probed e.ref.id out.1)) out.2).2) :=
  Procedure.run_andThen resolve (e.probe n t).beside _ s

lemma probe_recorded_of_run {e : ToolEntry σ} {n : Node σ}
    {resolve : ToolRequest → ToolM (σ × List ToolEvent) Tool} {t : Tool}
    {s s' : Equipped (σ × List ToolEvent)} {answer : Except Fault Bool}
    (h : (e.probe n t).beside.run resolve s = (answer, s')) :
    probe (e.recorded n) n.beside resolve t s =
      (answer, (ToolM.onNode (note (.probed e.ref.id answer)) s').2) := by
  rw [probe_recorded, h]

end ToolRegistry

/-- An operation with a record comes to the same as one without, and adds to the record. -/
def Recounts (a' : ToolM (σ × List ToolEvent) α) (a : ToolM σ α) : Prop :=
  ∀ s past, ∃ new, a' (s.recording past) = ((a s).1, (a s).2.recording (past ++ new))

namespace Recounts

open ToolM

lemma of_same {a' : ToolM (σ × List ToolEvent) α} {a : ToolM σ α}
    (h : ∀ s past, a' (s.recording past) = ((a s).1, (a s).2.recording past)) : Recounts a' a :=
  fun s past => ⟨[], by rw [h, List.append_nil]⟩

lemma pure (x : α) : Recounts (pure x : ToolM (σ × List ToolEvent) α) (pure x) := of_same fun _ _ => rfl

lemma throw (f : Fault) : Recounts (throw f : ToolM (σ × List ToolEvent) α) (throw f) :=
  of_same fun _ _ => rfl

lemma onNode (a : NodeM σ α) : Recounts (onNode a.beside) (onNode a) := of_same fun _ _ => rfl

lemma report (level : LogLevel) (message : String) (fields : List (String × String)) :
    Recounts (report (σ := σ × List ToolEvent) level message fields) (report level message fields) :=
  of_same fun _ _ => rfl

lemma modifyTools (f : ToolCache → ToolCache) :
    Recounts (modifyTools f : ToolM (σ × List ToolEvent) Unit) (modifyTools f) := of_same fun _ _ => rfl

lemma bind {a' : ToolM (σ × List ToolEvent) α} {a : ToolM σ α} {f' : α → ToolM (σ × List ToolEvent) β}
    {f : α → ToolM σ β} (ha : Recounts a' a) (hf : ∀ x, Recounts (f' x) (f x)) :
    Recounts (a' >>= f') (a >>= f) := by
  intro s past
  obtain ⟨new, hnew⟩ := ha s past
  rw [bind_apply, bind_apply, hnew]
  rcases a s with ⟨_ | x, t⟩
  · exact ⟨new, rfl⟩
  · obtain ⟨more, hmore⟩ := hf x t (past ++ new)
    exact ⟨new ++ more, by rw [← List.append_assoc]; exact hmore⟩

section Pieces

variable {resolve' : ToolRequest → ToolM (σ × List ToolEvent) Tool} {resolve : ToolRequest → ToolM σ Tool}
  (h : ∀ w, Recounts (resolve' w) (resolve w)) {r : ToolRegistry σ} {n : Node σ} {e : ToolEntry σ}

include h

lemma run (p : Procedure σ α) : Recounts (p.beside.run resolve') (p.run resolve) := by
  induction p with
  | done result => exact of_same fun _ _ => rfl
  | step γ operation next ih => exact fun s past => ih _ (ToolM.onNode operation s).2 past
  | request wanted next ih =>
    intro s past
    obtain ⟨new, hnew⟩ := h wanted s past
    obtain ⟨more, hmore⟩ := ih (resolve wanted s).1 (resolve wanted s).2 (past ++ new)
    refine ⟨new ++ more, ?_⟩
    rw [← List.append_assoc]
    rw [Procedure.beside, Procedure.run_request, hnew]
    exact hmore
  | look next ih => exact fun s past => ih s.tools.resolved s past

lemma probe (t : Tool) :
    Recounts (ToolRegistry.probe (e.recorded n) n.beside resolve' t) (ToolRegistry.probe e n resolve t) := by
  intro s past
  obtain ⟨new, hnew⟩ := run h (e.probe n t) s past
  refine ⟨new ++ [.probed e.ref.id (ToolRegistry.probe e n resolve t s).1], ?_⟩
  rw [← List.append_assoc, ToolRegistry.probe_recorded, hnew]
  rfl

lemma installTool (os : Os) (t : Tool) :
    Recounts (ToolRegistry.installTool (e.recorded n) n.beside resolve' os t)
      (ToolRegistry.installTool e n resolve os t) := by
  refine .bind (.report _ _ _) fun _ => .bind (.run h _) fun _ => .bind (.probe h t) fun present => ?_
  cases present with
  | true => exact .bind (.report _ _ _) fun _ => .pure t
  | false => exact .throw _

lemma provide :
    Recounts ((r.recorded n).provide (e.recorded n) n.beside resolve') (r.provide e n resolve) := by
  unfold ToolRegistry.provide
  rw [Node.os_beside]
  refine .bind (.onNode _) fun os => .bind (.of_same fun _ _ => rfl) fun seed =>
    .bind (.of_same fun _ _ => rfl) fun t => .bind (.probe h t) fun present => ?_
  cases present with
  | true => exact .pure t
  | false =>
    cases t.canInstall with
    | false => exact .throw _
    | true => exact .installTool h os t

end Pieces

section Registry

open ToolRegistry

variable {inner' : String → ToolM (σ × List ToolEvent) Tool} {inner : String → ToolM σ Tool}
  (h : ∀ id, Recounts (inner' id) (inner id)) {r : ToolRegistry σ} {n : Node σ} {e : ToolEntry σ}

include h

lemma resolveAll (ids : List String) : Recounts (resolveAll inner' ids) (resolveAll inner ids) := by
  induction ids with
  | nil => exact .pure ()
  | cons id rest ih => exact .bind (h id) fun _ => ih

lemma resolveAs (ref : ToolRef) :
    Recounts ((r.recorded n).resolveAs inner' ref) (r.resolveAs inner ref) := by
  unfold ToolRegistry.resolveAs
  rw [find?_recorded]
  cases r.find? ref.id with
  | none => exact .throw _
  | some e =>
    change Recounts (if e.ref.implementation ≠ ref.implementation then _ else _) _
    dsimp only
    split
    · exact .throw _
    · refine .bind (h ref.id) fun t => ?_
      split
      · exact .throw _
      · exact .pure t

lemma supply (w : ToolRequest) : Recounts ((r.recorded n).supply inner' w) (r.supply inner w) := by
  cases w with
  | ofId id => exact h id
  | ofKind ref => exact resolveAs h ref

lemma obtain : Recounts ((r.recorded n).obtain (e.recorded n) n.beside inner') (r.obtain e n inner) :=
  .bind (resolveAll h _) fun _ => provide (supply h)

lemma resolveWith (id : String) :
    Recounts ((r.recorded n).resolveWith n.beside inner' id) (r.resolveWith n inner id) := by
  intro s past
  cases he : r.find? id with
  | none =>
    rw [resolveWith_of_unknown he, resolveWith_of_unknown (find?_recorded_of_none he)]
    exact ⟨[], by rw [List.append_nil]⟩
  | some e =>
    have he' := find?_recorded_of_some (n := n) he
    cases ht : s.tools.find? id with
    | some t =>
      rw [resolveWith_of_cached he ht, resolveWith_of_cached he' ht]
      exact ⟨[], by rw [List.append_nil]⟩
    | none =>
      by_cases hm : id ∈ s.tools.resolving
      · rw [resolveWith_of_marked he ht hm, resolveWith_of_marked he' ht hm]
        exact ⟨[], by rw [List.append_nil]⟩
      · obtain ⟨new, hnew⟩ := obtain h (r := r) (n := n) (e := e)
          { s with tools := s.tools.begin id } past
        have hstart : { s.recording past with tools := (s.recording past).tools.begin id } =
          Equipped.recording { s with tools := s.tools.begin id } past := rfl
        rw [resolveWith_of_fresh he ht hm, resolveWith_of_fresh he' ht hm, hstart, hnew]
        rcases r.obtain e n inner { s with tools := s.tools.begin id } with ⟨_ | t, s'⟩
        · exact ⟨new, rfl⟩
        · exact ⟨new, rfl⟩

end Registry

section Resolve

open ToolRegistry

variable {r : ToolRegistry σ} {n : Node σ}

lemma resolveUpTo (depth : Nat) (id : String) :
    Recounts
      ((r.recorded n).resolveUpTo n.beside (fun id => MonadExcept.throw (.circularDependency id)) depth id)
      (r.resolveUpTo n (fun id => MonadExcept.throw (.circularDependency id)) depth id) := by
  induction depth generalizing id with
  | zero => exact .throw _
  | succ depth ih => exact resolveWith ih id

lemma resolveById (id : String) :
    Recounts ((r.recorded n).resolveById n.beside id) (r.resolveById n id) := by
  have hdepth : (r.recorded n).depthLimit = r.depthLimit := by
    simp [depthLimit, ToolRegistry.recorded]
  unfold ToolRegistry.resolveById
  rw [hdepth]
  exact resolveUpTo _ id

lemma noted (id : String) {a' : ToolM (σ × List ToolEvent) Tool} {a : ToolM σ Tool}
    (h : Recounts a' a) : Recounts (noted id a') a := by
  intro s past
  obtain ⟨new, hnew⟩ := h s past
  refine ⟨new ++ [.resolved id (a s).1], ?_⟩
  rw [← List.append_assoc]
  change ((a' (s.recording past)).1, (ToolM.onNode (note (.resolved id (a' (s.recording past)).1))
    (a' (s.recording past)).2).2) = _
  rw [hnew]
  rfl

lemma journal (id : String) : Recounts (r.journal n r.depthLimit id) (r.resolveById n id) := by
  have hup : ∀ depth id, Recounts (r.journal n depth id)
      (r.resolveUpTo n (fun id => MonadExcept.throw (.circularDependency id)) depth id) := by
    intro depth
    induction depth with
    | zero => exact fun id => .noted id (.throw _)
    | succ depth ih => exact fun id => .noted id (resolveWith ih id)
  exact hup _ id

lemma perform (p : Procedure σ α) :
    Recounts ((r.recorded n).perform n.beside p.beside) (r.perform n p) :=
  run (supply resolveById) p

lemma recheck (id : String) : Recounts ((r.recorded n).recheck n.beside id) (r.recheck n id) := by
  unfold ToolRegistry.recheck
  rw [find?_recorded]
  cases r.find? id with
  | none => exact .pure false
  | some e =>
    refine .bind (.of_same fun _ _ => rfl) fun c => ?_
    cases c.find? id with
    | none => exact .pure false
    | some t =>
      refine .bind (probe (supply resolveById) t) fun present => ?_
      cases present with
      | true => exact .pure true
      | false => exact .bind (.report _ _ _) fun _ => .bind (.modifyTools _) fun _ => .pure false

end Resolve

end Recounts

end HostProbe
