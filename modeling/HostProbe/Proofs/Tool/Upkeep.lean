import HostProbe.Proofs.Node.Execute
import HostProbe.Proofs.Tool.Resolution

/-! What procedures and resolutions keep of a node, and where cached tools come from. If what the tools
of a registry do to a node stays within a relation, then so does every resolution and every procedure
that gets tools by it, and each tool that is cached was made by the entry of its id. -/

namespace HostProbe

variable {σ α β : Type} {R : NodeState σ → NodeState σ → Prop} {Q : α → Prop} {Q' : β → Prop}

namespace Procedure

/-- What the procedure does to the node stays within a relation whatever its requests give, and its
value is as `Q` says. -/
inductive Upholds (R : NodeState σ → NodeState σ → Prop) (Q : α → Prop) : Procedure σ α → Prop where
  | done {result : Except Fault α} : (∀ x, result = .ok x → Q x) → Upholds R Q (.done result)
  | step {γ : Type} {operation : NodeM σ γ} {next : Except Fault γ → Procedure σ α} :
      Within R operation → (∀ s, Upholds R Q (next (operation s).1)) →
      Upholds R Q (.step γ operation next)
  | request {wanted : ToolRequest} {next : Except Fault Tool → Procedure σ α} :
      (∀ result, Upholds R Q (next result)) → Upholds R Q (.request wanted next)
  | look {next : List (String × Tool) → Procedure σ α} :
      (∀ tools, Upholds R Q (next tools)) → Upholds R Q (.look next)

lemma upholds_pure {x : α} (h : Q x) : (pure x : Procedure σ α).Upholds R Q :=
  .done fun _ he => Except.ok.inj he ▸ h

lemma upholds_throw (f : Fault) : (throw f : Procedure σ α).Upholds R Q := .done nofun

lemma upholds_ofNode_of {a : NodeM σ α} (h : Within R a) (hx : ∀ s x, (a s).1 = .ok x → Q x) :
    (liftM a : Procedure σ α).Upholds R Q := .step h fun s => .done (hx s)

lemma upholds_ofNode {a : NodeM σ α} (h : Within R a) :
    (liftM a : Procedure σ α).Upholds R fun _ => True := upholds_ofNode_of h fun _ _ _ => trivial

lemma Upholds.bind {p : Procedure σ α} {f : α → Procedure σ β} (hp : p.Upholds R Q)
    (hf : ∀ x, Q x → (f x).Upholds R Q') : (p >>= f).Upholds R Q' := by
  induction hp with
  | @done result h =>
    cases result with
    | error e => exact upholds_throw e
    | ok x => exact hf x (h x rfl)
  | step h _ ih => exact .step h ih
  | request _ ih => exact .request ih
  | look _ ih => exact .look ih

lemma upholds_ofNode_bind {a : NodeM σ α} {f : α → Procedure σ β} (h : Within R a)
    (hf : ∀ x, (f x).Upholds R Q') : ((liftM a : Procedure σ α) >>= f).Upholds R Q' :=
  (upholds_ofNode h).bind fun x _ => hf x

lemma upholds_liftM_bind (x : Except Fault α) {f : α → Procedure σ β}
    (hf : ∀ x, (f x).Upholds R Q') : ((liftM x : Procedure σ α) >>= f).Upholds R Q' :=
  Upholds.bind (Q := fun _ => True) (.done fun _ _ => trivial) fun x _ => hf x

lemma upholds_tool_bind (ref : ToolRef) {f : Tool → Procedure σ β} (hf : ∀ t, (f t).Upholds R Q') :
    (tool ref >>= f).Upholds R Q' :=
  .request fun
    | .ok t => hf t
    | .error f => upholds_throw f

end Procedure

namespace ToolRegistry

open ToolM

def Makes (r : ToolRegistry σ) (e : ToolEntry σ) (t : Tool) : Prop :=
  ∃ os seed serial, e.create os r.config = .ok seed ∧ t = e.tool serial seed

def Genuine (r : ToolRegistry σ) (c : ToolCache) : Prop :=
  ∀ id t, c.find? id = some t → ∃ e, r.find? id = some e ∧ r.Makes e t

lemma genuine_empty {r : ToolRegistry σ} : r.Genuine {} := by
  rintro id t ⟨⟩

structure Upkeep (r : ToolRegistry σ) (R : NodeState σ → NodeState σ → Prop) (s t : Equipped σ) :
    Prop where
  node : R s.node t.node
  genuine : r.Genuine s.tools → r.Genuine t.tools

structure Respects (r : ToolRegistry σ) (n : Node σ) (R : NodeState σ → NodeState σ → Prop) :
    Prop where
  node : n.Respects R
  probe : ∀ e ∈ r.entries, ∀ t, (e.probe n t).Upholds R fun _ => True
  install : ∀ e ∈ r.entries, ∀ t, (e.install n t).Upholds R fun _ => True

structure StaysWithin (r : ToolRegistry σ) (n : Node σ) (R : NodeState σ → NodeState σ → Prop) :
    Prop where
  logs s logs : R s { s with logs }
  os : Within R n.os
  probe : ∀ e ∈ r.entries, ∀ t, (e.probe n t).Upholds R fun _ => True
  install : ∀ e ∈ r.entries, ∀ t, (e.install n t).Upholds R fun _ => True

variable {r : ToolRegistry σ} {n : Node σ} {e : ToolEntry σ} [IsPreorder (NodeState σ) R]

lemma Respects.staysWithin (hr : r.Respects n R) : r.StaysWithin n R :=
  ⟨hr.node.logs, hr.node.detectedOs, hr.probe, hr.install⟩

instance : IsPreorder (Equipped σ) (Upkeep r R) where
  refl s := ⟨refl s.node, id⟩
  trans _ _ _ h h' := ⟨IsTrans.trans _ _ _ h.node h'.node, fun hc => h'.genuine (h.genuine hc)⟩

section Pieces

variable {resolve : ToolRequest → ToolM σ Tool}

omit [IsPreorder (NodeState σ) R] in
lemma within_onNode {a : NodeM σ α} (h : Within R a) : Within (Upkeep r R) (onNode a) :=
  fun s => ⟨h s.node, id⟩

lemma within_run (h : ∀ w, Within (Upkeep r R) (resolve w)) {p : Procedure σ α} (hp : p.Upholds R Q) :
    Within (Upkeep r R) (p.run resolve) := by
  induction hp with
  | done _ => exact fun s => refl s
  | step ha _ ih => exact fun s => IsTrans.trans _ _ _ (within_onNode ha s) (ih s.node _)
  | request _ ih => exact fun s => IsTrans.trans _ _ _ (h _ s) (ih _ _)
  | look _ ih => exact fun s => ih s.tools.resolved s

omit [IsPreorder (NodeState σ) R] in
lemma value_of_run {p : Procedure σ α} (hp : p.Upholds R Q) {s t : Equipped σ} {x : α}
    (hrun : p.run resolve s = (.ok x, t)) : Q x := by
  induction hp generalizing s with
  | done h => exact h x (congrArg Prod.fst hrun)
  | step _ _ ih => exact ih s.node hrun
  | request _ ih => exact ih _ hrun
  | look _ ih => exact ih s.tools.resolved hrun

lemma bears_upkeep (hr : r.StaysWithin n R) : r.Bears n (Upkeep r R) where
  os := within_onNode hr.os
  report _ _ _ := within_onNode fun s => hr.logs s _
  next s _ := ⟨refl s.node, fun hc => hc⟩
  probe e he t _ h := within_run h (hr.probe e he t)
  install e he t _ h := within_run h (hr.install e he t)

lemma eq_of_installTool {os : Os} {t t' : Tool} {s s' : Equipped σ}
    (h : installTool e n resolve os t s = (.ok t', s')) : t' = t := by
  obtain ⟨_, s₁, -, h⟩ := bind_eq_ok h
  obtain ⟨_, s₂, -, h⟩ := bind_eq_ok h
  obtain ⟨present, s₃, -, h⟩ := bind_eq_ok h
  cases present with
  | true =>
    obtain ⟨_, s₄, -, h⟩ := bind_eq_ok h
    cases h
    rfl
  | false => cases h

lemma makes_of_provide {t : Tool} {s s' : Equipped σ} (h : r.provide e n resolve s = (.ok t, s')) :
    r.Makes e t := by
  obtain ⟨os, s₁, -, h⟩ := bind_eq_ok h
  obtain ⟨seed, s₂, hseed, h⟩ := bind_eq_ok h
  obtain ⟨t', s₃, hmake, h⟩ := bind_eq_ok h
  obtain ⟨present, s₄, -, h⟩ := bind_eq_ok h
  have hmade : r.Makes e t' := by
    rw [make_apply] at hmake
    cases hmake
    exact ⟨os, seed, _, congrArg Prod.fst hseed, rfl⟩
  suffices heq : t = t' from heq ▸ hmade
  cases present with
  | true =>
    cases h
    rfl
  | false =>
    rw [if_neg Bool.false_ne_true] at h
    split at h
    · cases h
    · exact eq_of_installTool h

end Pieces

variable {inner : String → ToolM σ Tool}

lemma makes_of_obtain {t : Tool} {s s' : Equipped σ} (h : r.obtain e n inner s = (.ok t, s')) :
    r.Makes e t := by
  obtain ⟨_, s₁, -, h⟩ := bind_eq_ok h
  exact makes_of_provide h

lemma Genuine.insert {c : ToolCache} (hc : r.Genuine c) {id : String} (he : r.find? id = some e)
    {t : Tool} (ht : r.Makes e t) : r.Genuine (c.insert id t) := by
  intro x u hx
  by_cases hid : x = id
  · subst hid
    rw [ToolCache.find?_insert_self] at hx
    cases hx
    exact ⟨e, he, ht⟩
  · rw [ToolCache.find?_insert_of_ne hid] at hx
    exact hc x u hx

lemma within_resolveWith (hr : r.StaysWithin n R) (h : ∀ id, Within (Upkeep r R) (inner id))
    (id : String) : Within (Upkeep r R) (r.resolveWith n inner id) := by
  intro s
  cases he : r.find? id with
  | none =>
    rw [resolveWith_of_unknown he]
    exact ⟨refl s.node, fun hc => hc⟩
  | some e =>
    cases ht : s.tools.find? id with
    | some t =>
      rw [resolveWith_of_cached he ht]
      exact ⟨refl s.node, fun hc => hc⟩
    | none =>
      by_cases hm : id ∈ s.tools.resolving
      · rw [resolveWith_of_marked he ht hm]
        exact ⟨refl s.node, fun hc => hc⟩
      · have hobtain := (bears_upkeep hr).obtain (mem_of_find? he) h { s with tools := s.tools.begin id }
        have hmakes (t : Tool) (s' : Equipped σ)
            (hout : r.obtain e n inner { s with tools := s.tools.begin id } = (.ok t, s')) :
            r.Makes e t := makes_of_obtain hout
        rw [resolveWith_of_fresh he ht hm]
        generalize r.obtain e n inner { s with tools := s.tools.begin id } = out at hobtain hmakes ⊢
        rcases out with ⟨_ | t, s'⟩
        · exact ⟨hobtain.node, hobtain.genuine⟩
        · exact ⟨hobtain.node, fun hc => (hobtain.genuine hc).insert he (hmakes t s' rfl)⟩

lemma within_resolveUpTo (hr : r.StaysWithin n R) {bottom : String → ToolM σ Tool}
    (hbottom : ∀ id, Within (Upkeep r R) (bottom id)) (depth : Nat) (id : String) :
    Within (Upkeep r R) (r.resolveUpTo n bottom depth id) := by
  induction depth generalizing id with
  | zero => exact hbottom id
  | succ depth ih => exact within_resolveWith hr ih id

lemma within_resolveById (hr : r.StaysWithin n R) (id : String) :
    Within (Upkeep r R) (r.resolveById n id) :=
  within_resolveUpTo hr (fun _ => within_throw _) _ id

lemma Genuine.erase {c : ToolCache} (hc : r.Genuine c) (id : String) : r.Genuine (c.erase id) := by
  intro x t hx
  by_cases hid : x = id
  · subst hid
    cases ToolCache.find?_erase_self.symm.trans hx
  · exact hc x t ((ToolCache.find?_erase_of_ne hid).symm.trans hx)

lemma within_recheck (hr : r.StaysWithin n R) (id : String) :
    Within (Upkeep r R) (r.recheck n id) := by
  intro s
  cases he : r.find? id with
  | none =>
    rw [recheck_of_unknown he]
    exact refl s
  | some e =>
    cases ht : s.tools.find? id with
    | none =>
      rw [recheck_of_uncached he ht]
      exact refl s
    | some t =>
      have hprobe : Upkeep r R s (probe e n (r.supply (r.resolveById n)) t s).2 :=
        within_run (within_supply (within_resolveById hr)) (hr.probe e (mem_of_find? he) t) s
      rw [recheck_of_cached he ht]
      generalize probe e n _ t s = out at hprobe ⊢
      rcases out with ⟨_ | _ | _, s'⟩
      · exact hprobe
      · exact ⟨IsTrans.trans _ _ _ hprobe.node (hr.logs _ _), fun hc => (hprobe.genuine hc).erase id⟩
      · exact hprobe

omit [IsPreorder (NodeState σ) R] in
lemma Upkeep.mono {R' : NodeState σ → NodeState σ → Prop} {s t : Equipped σ} (h : Upkeep r R s t)
    (hR : ∀ s t, R s t → R' s t) : Upkeep r R' s t := ⟨hR _ _ h.node, h.genuine⟩

lemma within_perform (hr : r.Respects n R) {R' : NodeState σ → NodeState σ → Prop}
    [IsPreorder (NodeState σ) R'] (hR : ∀ s t, R s t → R' s t) {p : Procedure σ α}
    (hp : p.Upholds R' Q) : Within (Upkeep r R') (r.perform n p) := by
  refine within_run (fun w => ?_) hp
  exact (within_supply (within_resolveById hr.staysWithin) w).mono fun _ _ h => h.mono hR

omit [IsPreorder (NodeState σ) R] in
lemma eq_ok_of_resolveAs {ref : ToolRef} {t : Tool} {s s' : Equipped σ}
    (h : r.resolveAs inner ref s = (.ok t, s')) : inner ref.id s = (.ok t, s') := by
  unfold resolveAs at h
  cases he : r.find? ref.id with
  | none =>
    rw [he] at h
    cases h
  | some e =>
    rw [he] at h
    dsimp only at h
    split at h
    · cases h
    · obtain ⟨t', s₁, hinner, h⟩ := bind_eq_ok h
      split at h
      · cases h
      · cases h
        exact hinner

lemma within_resolve (hr : r.Respects n R) (ref : ToolRef) :
    Within (Upkeep r R) (r.resolve n ref) := within_resolveAs (within_resolveById hr.staysWithin) ref

lemma makes_of_resolve (hr : r.Respects n R) {ref : ToolRef} {t : Tool} {s s' : Equipped σ}
    (hs : r.Genuine s.tools) (h : r.resolve n ref s = (.ok t, s')) :
    ∃ e, r.find? ref.id = some e ∧ r.Makes e t := by
  have hinner := eq_ok_of_resolveAs h
  have hupkeep := (within_resolveById hr.staysWithin ref.id).of_eq hinner
  have hfound := (resolver_resolveById (r := r) (n := n) ref.id s).2
  rw [hinner] at hfound
  exact hupkeep.genuine hs ref.id t hfound

end ToolRegistry

end HostProbe
