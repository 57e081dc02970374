import HostProbe.Proofs.Tool.Record
import HostProbe.Proofs.Tool.Resolution

/-! How deep resolutions go, and what they leave. A resolution inside another one has one more mark, and
a mark is never set twice, so that the number of entries without a mark bounds the depth: what is put
below that depth is never run. The tools that are new in the cache are those of the resolutions that
ended well. -/

namespace HostProbe.ToolRegistry

open ToolM

variable {σ α β : Type}

def AgreeAt (marks : List String) (a b : ToolM σ α) : Prop :=
  ∀ s, s.tools.resolving = marks → a s = b s ∧ (b s).2.tools.resolving = marks

variable {r : ToolRegistry σ} {n : Node σ} {e : ToolEntry σ} {marks : List String}

lemma AgreeAt.refl {a : ToolM σ α} (h : ∀ s, (a s).2.tools.resolving = s.tools.resolving) :
    AgreeAt marks a a :=
  fun s hs => ⟨rfl, (h s).trans hs⟩

lemma AgreeAt.bind {a b : ToolM σ α} {f g : α → ToolM σ β} (hab : AgreeAt marks a b)
    (hfg : ∀ x, AgreeAt marks (f x) (g x)) : AgreeAt marks (a >>= f) (b >>= g) := by
  intro s hs
  obtain ⟨heq, hmarks⟩ := hab s hs
  rw [bind_apply, bind_apply, heq]
  generalize b s = out at hmarks ⊢
  rcases out with ⟨_ | x, s'⟩
  · exact ⟨rfl, hmarks⟩
  · exact hfg x s' hmarks

section Pieces

variable {resolve resolve' : ToolRequest → ToolM σ Tool}

lemma AgreeAt.run (h : ∀ w, AgreeAt marks (resolve w) (resolve' w)) (p : Procedure σ α) :
    AgreeAt marks (p.run resolve) (p.run resolve') := by
  induction p with
  | done x => exact .refl fun _ => rfl
  | step γ a next ih => exact fun s hs => ih (onNode a s).1 (onNode a s).2 hs
  | request w next ih =>
    intro s hs
    obtain ⟨heq, hmarks⟩ := h w s hs
    rw [Procedure.run_request, Procedure.run_request, heq]
    exact ih (resolve' w s).1 (resolve' w s).2 hmarks
  | look next ih => exact fun s hs => ih s.tools.resolved s hs

lemma AgreeAt.probe (h : ∀ w, AgreeAt marks (resolve w) (resolve' w)) (t : Tool) :
    AgreeAt marks (probe e n resolve t) (probe e n resolve' t) := .run h _

lemma AgreeAt.installTool (h : ∀ w, AgreeAt marks (resolve w) (resolve' w)) (os : Os) (t : Tool) :
    AgreeAt marks (installTool e n resolve os t) (installTool e n resolve' os t) := by
  refine .bind (.refl fun _ => rfl) fun _ => .bind (.run h _) fun _ =>
    .bind (.probe h t) fun present => .refl ?_
  cases present <;> exact fun _ => rfl

lemma AgreeAt.provide (h : ∀ w, AgreeAt marks (resolve w) (resolve' w)) :
    AgreeAt marks (r.provide e n resolve) (r.provide e n resolve') := by
  refine .bind (.refl fun _ => rfl) fun os => .bind (.refl fun _ => rfl) fun seed =>
    .bind (.refl fun _ => rfl) fun t => .bind (.probe h t) fun present => ?_
  split
  · exact .refl fun _ => rfl
  · split
    · exact .refl fun _ => rfl
    · exact .installTool h os t

end Pieces

variable {inner inner' : String → ToolM σ Tool}

lemma AgreeAt.supply (h : ∀ id, AgreeAt marks (inner id) (inner' id)) (w : ToolRequest) :
    AgreeAt marks (r.supply inner w) (r.supply inner' w) := by
  cases w with
  | ofId id => exact h id
  | ofKind ref =>
    simp only [ToolRegistry.supply, resolveAs]
    cases r.find? ref.id with
    | none => exact .refl fun _ => rfl
    | some e =>
      dsimp only
      split
      · exact .refl fun _ => rfl
      · refine (h ref.id).bind fun t => .refl ?_
        split <;> exact fun _ => rfl

lemma AgreeAt.resolveAll (h : ∀ id, AgreeAt marks (inner id) (inner' id)) (ids : List String) :
    AgreeAt marks (resolveAll inner ids) (resolveAll inner' ids) := by
  induction ids with
  | nil => exact .refl fun _ => rfl
  | cons id rest ih => exact (h id).bind fun _ => ih

lemma AgreeAt.obtain (h : ∀ id, AgreeAt marks (inner id) (inner' id)) :
    AgreeAt marks (r.obtain e n inner) (r.obtain e n inner') :=
  .bind (.resolveAll h _) fun _ => .provide (.supply h)

lemma resolveWith_congr {id : String} {s : Equipped σ}
    (h : id ∉ s.tools.resolving → ∀ e, r.find? id = some e →
      ∀ x, AgreeAt (id :: s.tools.resolving) (inner x) (inner' x)) :
    r.resolveWith n inner id s = r.resolveWith n inner' id s := by
  cases he : r.find? id with
  | none => rw [resolveWith_of_unknown he, resolveWith_of_unknown he]
  | some e =>
    cases ht : s.tools.find? id with
    | some t => rw [resolveWith_of_cached he ht, resolveWith_of_cached he ht]
    | none =>
      by_cases hm : id ∈ s.tools.resolving
      · rw [resolveWith_of_marked he ht hm, resolveWith_of_marked he ht hm]
      · have hobtain : AgreeAt (id :: s.tools.resolving) (r.obtain e n inner)
            (r.obtain e n inner') := .obtain (h hm e he)
        rw [resolveWith_of_fresh he ht hm, resolveWith_of_fresh he ht hm,
          (hobtain { s with tools := s.tools.begin id } rfl).1]

lemma resolveUpTo_congr {bottom bottom' : String → ToolM σ Tool} (hb : Resolver r bottom')
    {depth depth' : Nat} {id : String} {s : Equipped σ} (h : r.unmarked s.tools.resolving < depth)
    (h' : r.unmarked s.tools.resolving < depth') :
    r.resolveUpTo n bottom depth id s = r.resolveUpTo n bottom' depth' id s := by
  induction depth generalizing depth' id s with
  | zero => omega
  | succ depth ih =>
    cases depth' with
    | zero => omega
    | succ depth' =>
      refine resolveWith_congr fun hm e he x s' hs' => ?_
      have hlt := unmarked_cons_lt he hm
      rw [← hs'] at hlt
      exact ⟨ih (by omega) (by omega), ((resolver_resolveUpTo hb depth').grown x s').marks.trans hs'⟩

lemma resolveById_eq : r.resolveById n = r.resolveWith n (r.resolveById n) := by
  funext id s
  have hlt := r.unmarked_lt_depthLimit s.tools.resolving
  exact resolveUpTo_congr (resolver_throw _) hlt (Nat.lt_succ_of_lt hlt)

lemma resolveById_of_cached {id : String} {s : Equipped σ} {t : Tool} (he : r.find? id = some e)
    (ht : s.tools.find? id = some t) : r.resolveById n id s = (.ok t, s) := by
  rw [resolveById_eq, resolveWith_of_cached he ht]

section Journal

def Accounted (s t : Equipped (σ × List ToolEvent)) : Prop :=
  ∃ new, t.events = s.events ++ new ∧ ∀ id u, t.tools.find? id = some u →
    s.tools.find? id = some u ∨ .resolved id (.ok u) ∈ new

variable {s t : Equipped (σ × List ToolEvent)}

lemma accounted_of_same_tools {new : List ToolEvent} (hevents : t.events = s.events ++ new)
    (htools : ∀ id, t.tools.find? id = s.tools.find? id) : Accounted s t :=
  ⟨new, hevents, fun id _ h => .inl ((htools id).symm.trans h)⟩

instance : IsPreorder (Equipped (σ × List ToolEvent)) Accounted where
  refl s := accounted_of_same_tools (List.append_nil _).symm fun _ => rfl
  trans s t u := by
    rintro ⟨new, hevents, hnew⟩ ⟨more, hevents', hmore⟩
    refine ⟨new ++ more, by rw [hevents', hevents, List.append_assoc], fun id v hv => ?_⟩
    rcases hmore id v hv with hv | hv
    · exact (hnew id v hv).imp_right (List.mem_append_left _)
    · exact .inr (List.mem_append_right _ hv)

lemma accounted_onNode (a : NodeM σ α) :
    Within Accounted (onNode (a.beside (ρ := List ToolEvent))) :=
  fun _ => accounted_of_same_tools (List.append_nil _).symm fun _ => rfl

lemma accounted_run {resolve : ToolRequest → ToolM (σ × List ToolEvent) Tool}
    (h : ∀ w, Within Accounted (resolve w)) (p : Procedure σ α) :
    Within Accounted (p.beside.run resolve) := by
  induction p with
  | done result => exact fun s => refl s
  | step γ operation next ih =>
    exact fun s => IsTrans.trans _ _ _ (accounted_onNode operation s) (ih _ _)
  | request w next ih => exact fun s => IsTrans.trans _ _ _ (h w s) (ih _ _)
  | look next ih => exact fun s => ih s.tools.resolved s

lemma bears_accounted : (r.recorded n).Bears n.beside (Accounted (σ := σ)) where
  os := by
    rw [Node.os_beside]
    exact accounted_onNode _
  report level message fields := accounted_onNode (NodeM.log level message fields)
  next s k := accounted_of_same_tools (List.append_nil _).symm fun _ => rfl
  probe e he t resolve h := by
    obtain ⟨e, -, rfl⟩ := List.mem_map.mp he
    intro s
    refine IsTrans.trans _ _ _ (accounted_run h (e.probe n t) s) ?_
    rw [ToolEntry.recorded, Procedure.run_andThen]
    exact accounted_of_same_tools rfl fun _ => rfl
  install e he t resolve h := by
    obtain ⟨e, -, rfl⟩ := List.mem_map.mp he
    exact accounted_run h (e.install n t)

lemma accounted_noted {a : ToolM (σ × List ToolEvent) Tool} {id : String}
    (h : ∃ new, (a s).2.events = s.events ++ new ∧ ∀ x u, (a s).2.tools.find? x = some u →
      s.tools.find? x = some u ∨ .resolved x (.ok u) ∈ new ∨ (x = id ∧ (a s).1 = .ok u)) :
    Accounted s (noted id a s).2 := by
  obtain ⟨new, hevents, hnew⟩ := h
  refine ⟨new ++ [.resolved id (a s).1], ?_, fun x u hx => ?_⟩
  · rw [← List.append_assoc, ← hevents]
    rfl
  · rcases hnew x u hx with h | h | ⟨rfl, h⟩
    · exact .inl h
    · exact .inr (List.mem_append_left _ h)
    · exact .inr (by simp [h])

lemma accounted_journal (depth : Nat) (id : String) :
    Within Accounted (r.journal n depth id) := by
  induction depth generalizing id with
  | zero => exact fun s => accounted_noted ⟨[], (List.append_nil _).symm, fun _ _ => .inl⟩
  | succ depth ih =>
    intro s
    apply accounted_noted
    cases he : (r.recorded n).find? id with
    | none =>
      rw [resolveWith_of_unknown he]
      exact ⟨[], (List.append_nil _).symm, fun _ _ => .inl⟩
    | some e =>
      cases ht : s.tools.find? id with
      | some t =>
        rw [resolveWith_of_cached he ht]
        exact ⟨[], (List.append_nil _).symm, fun _ _ => .inl⟩
      | none =>
        by_cases hm : id ∈ s.tools.resolving
        · rw [resolveWith_of_marked he ht hm]
          exact ⟨[], (List.append_nil _).symm, fun _ _ => .inl⟩
        · obtain ⟨new, hevents, hnew⟩ :=
            bears_accounted.obtain (mem_of_find? he) ih { s with tools := s.tools.begin id }
          rw [resolveWith_of_fresh he ht hm]
          generalize (r.recorded n).obtain e n.beside _ _ = out at hevents hnew ⊢
          rcases out with ⟨_ | t, s'⟩
          · exact ⟨new, hevents, fun x u hx => (hnew x u hx).imp_right .inl⟩
          · refine ⟨new, hevents, fun x u hx => ?_⟩
            by_cases hxid : x = id
            · subst hxid
              rw [ToolCache.find?_insert_self] at hx
              exact .inr (.inr ⟨rfl, congrArg _ (Option.some.inj hx)⟩)
            · rw [ToolCache.find?_insert_of_ne hxid] at hx
              exact (hnew x u hx).imp_right .inl

end Journal

/-- A resolution is never deeper than there are entries whose id is not marked, whatever would be
run below that depth. However it ends, the marks are what they were and no tool is lost. If it
fails, its id is cached exactly if it was before; and each tool that is new in the cache is the
outcome of a resolution of its own, by a journal of the run that notes how each resolution ends. -/
theorem resolveById_ends_and_restores_marks (r : ToolRegistry σ) (n : Node σ) (id : String)
    (s : Equipped σ) :
    (∀ bottom depth, r.unmarked s.tools.resolving < depth →
      r.resolveUpTo n bottom depth id s = r.resolveById n id s) ∧
    r.resolveById n id s = r.resolveWith n (r.resolveById n) id s ∧
    ∃ result s' events, r.resolveById n id s = (result, s') ∧
      r.journal n r.depthLimit id (s.recording []) = (result, s'.recording events) ∧
      s'.tools.resolving = s.tools.resolving ∧
      (∀ x t, s.tools.find? x = some t → s'.tools.find? x = some t) ∧
      (∀ f, result = .error f → s'.tools.find? id = s.tools.find? id) ∧
      ∀ x t, s'.tools.find? x = some t →
        s.tools.find? x = some t ∨ .resolved x (.ok t) ∈ events := by
  refine ⟨fun bottom depth h => ?_, congrFun (congrFun resolveById_eq id) s, ?_⟩
  · exact resolveUpTo_congr (resolver_throw _) h (r.unmarked_lt_depthLimit _)
  · obtain ⟨hgrows, hself⟩ := resolver_resolveById (r := r) (n := n) id s
    obtain ⟨events, hjournal⟩ := Recounts.journal (r := r) (n := n) id s []
    obtain ⟨new, hevents, hnew⟩ := accounted_journal (r := r) (n := n) r.depthLimit id (s.recording [])
    rw [hjournal] at hevents hnew
    obtain rfl : events = new := hevents
    refine ⟨(r.resolveById n id s).1, (r.resolveById n id s).2, events, rfl, hjournal, hgrows.marks,
      fun x t => hgrows.kept, fun f hf => ?_, hnew⟩
    rw [hself, hf]

end HostProbe.ToolRegistry
