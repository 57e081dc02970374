import HostProbe.Proofs.Operation
import HostProbe.Tool.Registry

/-! Operations on a node and its tools, from the state that they start in: what each way of putting
them together does with the outcome and with the state. -/

namespace HostProbe

variable {σ α β : Type}

namespace ToolM

@[simp] lemma onNode_apply (a : NodeM σ α) (s : Equipped σ) :
    onNode a s = ((a s.node).1, { s with node := (a s.node).2 }) := rfl

@[simp] lemma getTools_apply (s : Equipped σ) : (getTools : ToolM σ _) s = (.ok s.tools, s) := rfl

end ToolM

namespace Procedure

variable (resolve : ToolRequest → ToolM σ Tool)

lemma run_request (w : ToolRequest) (next : Except Fault Tool → Procedure σ α) (s : Equipped σ) :
    (request w next).run resolve s = (next (resolve w s).1).run resolve (resolve w s).2 := rfl

lemma run_andThen (p : Procedure σ α) (f : Except Fault α → Procedure σ β) (s : Equipped σ) :
    (p.andThen f).run resolve s = (f (p.run resolve s).1).run resolve (p.run resolve s).2 := by
  induction p generalizing s with
  | done r => rfl
  | step γ operation next ih => exact ih _ _
  | request wanted next ih => exact ih _ _
  | look next ih => exact ih _ _

end Procedure

namespace ToolRegistry

open ToolM

lemma marked_apply (id : String) (a : ToolM σ Tool) (s : Equipped σ) :
    marked id a s =
      let out := a { s with tools := s.tools.begin id }
      (out.1, { out.2 with tools := out.2.tools.finish id }) := rfl

lemma make_apply (e : ToolEntry σ) (seed : ToolSeed) (s : Equipped σ) :
    make e seed s = (.ok (e.tool s.tools.next seed),
      { s with tools := { s.tools with next := s.tools.next + 1 } }) := rfl

variable {r : ToolRegistry σ} {n : Node σ} {inner : String → ToolM σ Tool} {id : String}
  {e : ToolEntry σ} {t : Tool} {s : Equipped σ}

lemma resolveWith_of_unknown (h : r.find? id = none) :
    r.resolveWith n inner id s = (.error (.unknownTool id), s) := by
  simp [resolveWith, h]

lemma resolveWith_of_cached (he : r.find? id = some e) (ht : s.tools.find? id = some t) :
    r.resolveWith n inner id s = (.ok t, s) := by
  simp [resolveWith, he, ht, bind_of_ok (getTools_apply s)]

lemma resolveWith_of_marked (he : r.find? id = some e) (ht : s.tools.find? id = none)
    (hm : id ∈ s.tools.resolving) :
    r.resolveWith n inner id s = (.error (.circularDependency id), s) := by
  simp [resolveWith, he, ht, hm, bind_of_ok (getTools_apply s)]

lemma resolveWith_of_fresh (he : r.find? id = some e) (ht : s.tools.find? id = none)
    (hm : id ∉ s.tools.resolving) :
    r.resolveWith n inner id s =
      match r.obtain e n inner { s with tools := s.tools.begin id } with
      | (.ok t, s') => (.ok t, { s' with tools := (s'.tools.finish id).insert id t })
      | (.error f, s') => (.error f, { s' with tools := s'.tools.finish id }) := by
  unfold resolveWith
  simp only [he, bind_of_ok (getTools_apply s), ht, hm, if_false]
  rw [bind_apply, marked_apply]
  rcases r.obtain e n inner { s with tools := s.tools.begin id } with ⟨_ | t, s'⟩ <;> rfl

lemma resolveWith_of_obtained (he : r.find? id = some e) (ht : s.tools.find? id = none)
    (hm : id ∉ s.tools.resolving) {s' : Equipped σ}
    (h : r.obtain e n inner { s with tools := s.tools.begin id } = (.ok t, s')) :
    r.resolveWith n inner id s = (.ok t, { s' with tools := (s'.tools.finish id).insert id t }) := by
  rw [resolveWith_of_fresh he ht hm, h]

lemma recheck_of_unknown (h : r.find? id = none) : r.recheck n id s = (.ok false, s) := by
  unfold recheck
  rw [h]
  rfl

lemma recheck_of_uncached (he : r.find? id = some e) (ht : s.tools.find? id = none) :
    r.recheck n id s = (.ok false, s) := by
  simp [recheck, he, ht, bind_of_ok (getTools_apply s)]

lemma recheck_of_cached (he : r.find? id = some e) (ht : s.tools.find? id = some t) :
    r.recheck n id s = match probe e n (r.supply (r.resolveById n)) t s with
      | (.error f, s') => (.error f, s')
      | (.ok true, s') => (.ok true, s')
      | (.ok false, s') => (.ok false, {
          node := { s'.node with
            logs := s'.node.logs ++
              [⟨.warning, "cached tool is gone, evicting", [n.field, ("tool", id)]⟩] }
          tools := s'.tools.erase id }) := by
  unfold recheck
  simp only [he, bind_of_ok (getTools_apply s), ht]
  rw [bind_apply]
  rcases probe e n (r.supply (r.resolveById n)) t s with ⟨_ | _ | _, s'⟩ <;> rfl

section Within

variable {E : Equipped σ → Equipped σ → Prop} [IsPreorder (Equipped σ) E]
  (h : ∀ id, Within E (inner id))

include h

lemma within_resolveAs (ref : ToolRef) : Within E (r.resolveAs inner ref) := by
  unfold resolveAs
  cases r.find? ref.id with
  | none => exact within_throw _
  | some e =>
    dsimp only
    split
    · exact within_throw _
    · refine (h ref.id).bind fun t => ?_
      split
      · exact within_throw _
      · exact within_pure t

lemma within_supply (w : ToolRequest) : Within E (r.supply inner w) := by
  cases w with
  | ofKind ref => exact within_resolveAs h ref
  | ofId id => exact h id

lemma within_resolveAll (ids : List String) : Within E (resolveAll inner ids) := by
  induction ids with
  | nil => exact within_pure ()
  | cons id rest ih => exact (h id).bind fun _ => ih

end Within

section Bears

/-- What the tools of a registry do to a node and its tools stays within a relation if the resolutions
that they start do. -/
structure Bears (r : ToolRegistry σ) (n : Node σ) (E : Equipped σ → Equipped σ → Prop) : Prop where
  os : Within E (onNode n.os)
  report level message fields : Within E (report (σ := σ) level message fields)
  next (s : Equipped σ) k : E s { s with tools := { s.tools with next := k } }
  probe : ∀ e ∈ r.entries, ∀ t resolve, (∀ w, Within E (resolve w)) →
    Within E ((e.probe n t).run resolve)
  install : ∀ e ∈ r.entries, ∀ t resolve, (∀ w, Within E (resolve w)) →
    Within E ((e.install n t).run resolve)

variable {E : Equipped σ → Equipped σ → Prop} [IsPreorder (Equipped σ) E] (h : r.Bears n E)
  (he : e ∈ r.entries)

include h he

lemma Bears.installTool {resolve : ToolRequest → ToolM σ Tool} (hres : ∀ w, Within E (resolve w))
    (os : Os) (t : Tool) : Within E (installTool e n resolve os t) := by
  refine (h.report _ _ _).bind fun _ => (h.install e he t resolve hres).bind fun _ =>
    (h.probe e he t resolve hres).bind fun present => ?_
  split
  · exact (h.report _ _ _).bind fun _ => within_pure t
  · exact within_throw _

lemma Bears.provide {resolve : ToolRequest → ToolM σ Tool} (hres : ∀ w, Within E (resolve w)) :
    Within E (r.provide e n resolve) := by
  refine h.os.bind fun os => (within_liftM _).bind fun seed => Within.bind ?_ fun t =>
    (h.probe e he t resolve hres).bind fun present => ?_
  · exact fun s => h.next s _
  · split
    · exact within_pure t
    · split
      · exact within_throw _
      · exact h.installTool he hres os t

lemma Bears.obtain (hinner : ∀ id, Within E (inner id)) : Within E (r.obtain e n inner) :=
  (within_resolveAll hinner _).bind fun _ => h.provide he (within_supply hinner)

end Bears

end ToolRegistry

end HostProbe
