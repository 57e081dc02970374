import HostProbe.Proofs.Tool.Depth
import HostProbe.Proofs.Tool.Order
import HostProbe.Proofs.Tool.Probe

/-! Resolution as a traversal. On a node whose system is known and whose probes only answer, a
resolution probes what is not cached in depth-first post-order, each id once. -/

namespace HostProbe

variable {σ α : Type}

section Alone

def Procedure.countRequest (_ : ToolRequest) : ToolM σ Tool := fun s =>
  (.error (.unknownTool ""), { s with tools := { s.tools with next := s.tools.next + 1 } })

lemma Procedure.next_le_run_countRequest (p : Procedure σ α) (s : Equipped σ) :
    s.tools.next ≤ (p.run countRequest s).2.tools.next := by
  induction p generalizing s with
  | done result => exact Nat.le_refl _
  | step γ operation next ih => exact ih _ (ToolM.onNode operation s).2
  | request w next ih => exact Nat.le_of_succ_le (ih _ (countRequest w s).2)
  | look next ih => exact ih s.tools.resolved s

lemma Procedure.run_beside_of_no_request (p : Procedure σ α) {s : Equipped σ}
    (h : (p.run countRequest s).2.tools.next = s.tools.next)
    (resolve : ToolRequest → ToolM (σ × List ToolEvent) Tool) (past : List ToolEvent) :
    p.beside.run resolve (s.recording past) =
      ((p.run countRequest s).1, (p.run countRequest s).2.recording past) := by
  induction p generalizing s with
  | done result => rfl
  | step γ operation next ih => exact ih _ h
  | request w next ih =>
    have hmore := (next (countRequest w s).1).next_le_run_countRequest (countRequest w s).2
    exact absurd (h ▸ hmore) (Nat.not_succ_le_self _)
  | look next ih => exact ih _ h

end Alone

namespace ToolRegistry

open ToolM

def Usable (r : ToolRegistry σ) (n : Node σ) (os : Os) (calm : NodeState σ → Prop) (id : String) :
    Prop :=
  ∃ e seed, r.find? id = some e ∧ e.create os r.config = .ok seed ∧ r.Answers n os calm e (.ok true)

variable {r : ToolRegistry σ} {n : Node σ} {os : Os} {calm : NodeState σ → Prop} {e : ToolEntry σ}
  {s s' s'' : Equipped σ} {id : String}

def Finds (a : ToolM (σ × List ToolEvent) α) (s : Equipped σ) (ids : List String) (x : α)
    (s' : Equipped σ) : Prop :=
  ∀ past, a (s.recording past) = (.ok x, s'.recording (past ++ ids.map (.probed · (.ok true))))

lemma Finds.bind {β : Type} {a : ToolM (σ × List ToolEvent) α} {f : α → ToolM (σ × List ToolEvent) β}
    {ids ids' : List String} {x : α} {y : β} (ha : Finds a s ids x s') (hf : Finds (f x) s' ids' y s'') :
    Finds (a >>= f) s (ids ++ ids') y s'' := by
  intro past
  rw [bind_of_ok (ha past), hf, List.map_append, List.append_assoc]

lemma Finds.run {a' : ToolM (σ × List ToolEvent) α} {a : ToolM σ α} {ids : List String} {x : α}
    (h : Finds a' s ids x s') (ha : Recounts a' a) : a s = (.ok x, s') := by
  obtain ⟨new, hnew⟩ := ha s []
  have hsame := hnew.symm.trans (h [])
  have houtcome := congrArg Prod.fst hsame
  have hstate := congrArg (fun out => out.2.alone) hsame
  exact Prod.ext houtcome hstate

lemma Finds.of_resolveAll {a' : String → ToolM (σ × List ToolEvent) Tool} {a : String → ToolM σ Tool}
    {ids : List String} (h : Finds (resolveAll a' [id]) s ids () s') (ha : Recounts (a' id) (a id)) :
    ∃ t, Finds (a' id) s ids t s' := by
  rcases hout : a id s with ⟨f | t, s₁⟩
  · obtain ⟨new, hnew⟩ := ha s []
    obtain ⟨t, s₂, hrun, -⟩ := bind_eq_ok (h [])
    rw [hnew, hout] at hrun
    cases hrun
  · refine ⟨t, fun past => ?_⟩
    obtain ⟨new, hnew⟩ := ha s past
    obtain ⟨t', s₂, hrun, hend⟩ := bind_eq_ok (h past)
    obtain rfl : s₂ = _ := congrArg Prod.snd hend
    rw [hnew, hout] at hrun
    obtain rfl : t = t' := Except.ok.inj (congrArg Prod.fst hrun)
    rw [hnew, hout, hrun]

lemma finds_provide (hos : ∀ st, calm st → st.os = some os) (hs : calm s.node)
    (resolve : ToolRequest → ToolM (σ × List ToolEvent) Tool) {seed : ToolSeed}
    (hseed : e.create os r.config = .ok seed) (hans : r.Answers n os calm e (.ok true)) :
    ∃ node, calm node ∧ Finds ((r.recorded n).provide (e.recorded n) n.beside resolve) s [e.ref.id]
      (e.tool s.tools.next seed) { node, tools := { s.tools with next := s.tools.next + 1 } } := by
  obtain ⟨node, hnode, hrun⟩ := hans seed hseed s.tools.next Procedure.countRequest
    { s with tools := { s.tools with next := s.tools.next + 1 } } hs
  refine ⟨node, hnode, fun past => ?_⟩
  have hprobe := (e.probe n (e.tool s.tools.next seed)).run_beside_of_no_request (by rw [hrun]) resolve past
  rw [hrun] at hprobe
  exact provide_of_found (s := s.recording past) (hos _ hs) hseed rfl (probe_recorded_of_run hprobe)

structure Visited (calm : NodeState σ → Prop) (s s' : Equipped σ) (order : List String) : Prop where
  isCalm : calm s'.node
  contains x : s'.tools.contains x = true ↔ s.tools.contains x = true ∨ x ∈ s.tools.lacking order

lemma Visited.of_cached (hs : calm s.node) {order : List String}
    (h : ∀ x ∈ order, s.tools.contains x = true) : Visited calm s s order where
  isCalm := hs
  contains x := by simp [ToolCache.lacking_eq_nil h]

lemma Visited.append {order order' : List String} (h : Visited calm s s' order)
    (h' : Visited calm s' s'' order') : Visited calm s s'' (order ++ order') where
  isCalm := h'.isCalm
  contains x := by
    rw [ToolCache.lacking_append h.contains, h'.contains, h.contains, List.mem_append, or_assoc]

lemma visits_fresh (hos : ∀ st, calm st → st.os = some os) (hu : r.Usable n os calm id)
    {below : List String} {e : ToolEntry σ} (he : r.find? id = some e) (hid : id ∉ below)
    (hn : s.tools.find? id = none) (hm : id ∉ s.tools.resolving)
    (hbelow : ∃ s₁, Finds (resolveAll ((r.recorded n).resolveById n.beside) e.dependencies)
        { s with tools := s.tools.begin id } (s.tools.lacking below) () s₁ ∧
      Visited calm { s with tools := s.tools.begin id } s₁ below) :
    ∃ t s₁, Finds ((r.recorded n).resolveById n.beside id) s (s.tools.lacking (below ++ [id])) t s₁ ∧
      Visited calm s s₁ (below ++ [id]) := by
  obtain ⟨e', seed, he', hseed, hans⟩ := hu
  obtain rfl : e = e' := Option.some.inj (he.symm.trans he')
  obtain rfl : e.ref.id = id := id_of_find? he
  obtain ⟨s₁, hall, hvisit⟩ := hbelow
  obtain ⟨node, hcalm, hprovide⟩ := finds_provide hos hvisit.isCalm
    ((r.recorded n).supply ((r.recorded n).resolveById n.beside)) hseed hans
  have hobtain : Finds ((r.recorded n).obtain (e.recorded n) n.beside _) _ _ _ _ := hall.bind hprovide
  have hcontains : ∀ x, s₁.tools.contains x = true ↔
      s.tools.contains x = true ∨ x ∈ s.tools.lacking below := hvisit.contains
  have hlack : s₁.tools.lacking [e.ref.id] = [e.ref.id] := by
    refine ToolCache.lacking_singleton fun hc => ?_
    rcases (hcontains e.ref.id).mp hc with hc | hc
    · exact ToolCache.not_contains_iff.mpr hn hc
    · exact hid (ToolCache.mem_lacking.mp hc).1
  have hsplit : s.tools.lacking (below ++ [e.ref.id]) = s.tools.lacking below ++ [e.ref.id] :=
    (ToolCache.lacking_append hcontains).trans (congrArg (_ ++ ·) hlack)
  let made := e.tool s₁.tools.next seed
  let tools : ToolCache := { s₁.tools with next := s₁.tools.next + 1 }
  refine ⟨made, { node, tools := (tools.finish e.ref.id).insert e.ref.id made }, fun past => ?_, ?_⟩
  · rw [resolveById_eq, hsplit]
    exact resolveWith_of_obtained (s := s.recording past) (find?_recorded_of_some he) hn hm (hobtain past)
  · constructor
    · exact hcalm
    · intro x
      rw [hsplit, List.mem_append, List.mem_singleton]
      by_cases hx : x = e.ref.id
      · subst hx
        simp [ToolCache.contains]
      · rw [ToolCache.contains, ToolCache.find?_insert_of_ne hx, or_iff_left hx]
        exact hcontains x

lemma visits (hos : ∀ st, calm st → st.os = some os) {ids order : List String}
    (h : PostOrder r ids order) :
    ∀ s, (∀ x ∈ order, r.Usable n os calm x) → calm s.node → r.Closed s.tools →
      (∀ x ∈ order, x ∉ s.tools.resolving) →
      ∃ s', Finds (resolveAll ((r.recorded n).resolveById n.beside) ids) s (s.tools.lacking order) () s' ∧
        Visited calm s s' order := by
  -- the cache grows from one id to the next and stays closed, so that what is cached is left out
  induction h with
  | nil =>
    intro s _ hs _ _
    exact ⟨s, fun past => by simp [ToolCache.lacking]; rfl, hs, by simp [ToolCache.lacking]⟩
  | @cons id e rest below after he hbelow hafter ihbelow ihafter =>
    intro s hu hs hclosed hm
    have hpost : PostOrder r [id] (below ++ [id]) := .cons he hbelow .nil
    have hin : ∀ x ∈ below ++ [id], x ∈ below ++ id :: after := by simp; tauto
    have hout : ∀ x ∈ after, x ∈ below ++ id :: after := by simp; tauto
    have hhead : ∃ t s₁, Finds ((r.recorded n).resolveById n.beside id) s
        (s.tools.lacking (below ++ [id])) t s₁ ∧ Visited calm s s₁ (below ++ [id]) := by
      cases ht : s.tools.find? id with
      | some t =>
        have hcached : ∀ x ∈ below ++ [id], s.tools.contains x = true := by
          intro x hx
          obtain ⟨i, hi, hreach⟩ := hpost.mem_iff.mp hx
          obtain rfl := List.mem_singleton.mp hi
          exact hclosed.reaches hreach (ToolCache.contains_iff.mpr ⟨t, ht⟩)
        refine ⟨t, s, fun past => ?_, .of_cached hs hcached⟩
        rw [ToolCache.lacking_eq_nil hcached, List.map_nil, List.append_nil]
        exact resolveById_of_cached (find?_recorded_of_some he) ht
      | none =>
        have hid : id ∉ below := by
          intro hx
          obtain ⟨d, hd, hreach⟩ := hbelow.mem_iff.mp hx
          refine hpost.not_onCycle (x := id) (by simp) ?_
          exact .head' ((dependsOn_iff he).mpr hd) hreach
        refine visits_fresh hos (hu id (hin id (by simp))) he hid ht (hm id (hin id (by simp))) ?_
        refine ihbelow _ (fun x hx => hu x (hin x (by simp [hx]))) hs hclosed fun x hx => ?_
        refine List.not_mem_cons_of_ne_of_not_mem ?_ (hm x (hin x (by simp [hx])))
        exact fun hxid => hid (hxid ▸ hx)
    obtain ⟨t, s₁, hfinds, hvisit⟩ := hhead
    have hgrows := (resolver_resolveById (r := r) (n := n)).grown id s
    rw [hfinds.run (.resolveById id)] at hgrows
    obtain ⟨s₂, hrest, hvisit'⟩ := ihafter s₁ (fun x hx => hu x (hout x hx)) hvisit.isCalm
      (hgrows.closed hclosed) fun x hx => hgrows.marks ▸ hm x (hout x hx)
    refine ⟨s₂, ?_, by simpa using hvisit.append hvisit'⟩
    rw [List.append_cons, ToolCache.lacking_append hvisit.contains]
    exact hfinds.bind hrest

/-- On a node whose system is known, with no resolution in progress and a cache that is closed under
dependencies: if all that an id reaches is registered, can be made and is found by its probe, and no
cycle is reached, then the resolution of the id succeeds. By the record of the resolution, the probes
that it ran are those of the ids that are reached and not cached, each once, in depth-first post-order;
these are the ids that it adds to the cache. The next resolution returns the same tool and does nothing
else. -/
theorem resolveById_probes_in_postOrder (hos : ∀ st, calm st → st.os = some os) (hs : calm s.node)
    (hmarks : s.tools.resolving = []) (hclosed : r.Closed s.tools)
    (hreg : ∀ x, r.Reaches id x → r.contains x = true)
    (hcycle : ∀ x, r.Reaches id x → ¬ r.OnCycle x)
    (hmade : ∀ x e, r.Reaches id x → r.find? x = some e →
      ∃ seed, e.create os r.config = .ok seed)
    (hpresent : ∀ x e, r.Reaches id x → r.find? x = some e → r.Answers n os calm e (.ok true)) :
    ∃ t s' order, r.resolveById n id s = (.ok t, s') ∧ r.PostOrder [id] order ∧
      (r.recorded n).resolveById n.beside id (s.recording []) =
        (.ok t, s'.recording ((s.tools.lacking order).map (.probed · (.ok true)))) ∧
      (∀ x, x ∈ s.tools.lacking order ↔ r.Reaches id x ∧ ¬ s.tools.contains x = true) ∧
      (s.tools.lacking order).Nodup ∧
      (∀ x, s'.tools.contains x = true ↔
        s.tools.contains x = true ∨ x ∈ s.tools.lacking order) ∧
      (∀ x u, s.tools.find? x = some u → s'.tools.find? x = some u) ∧
      r.resolveById n id s' = (.ok t, s') := by
  obtain ⟨order, horder⟩ := exists_postOrder (fun x hx => Option.isSome_iff_exists.mp (hreg x hx))
    hcycle
  have hreach : ∀ x, x ∈ order ↔ r.Reaches id x := by simp [horder.mem_iff]
  have husable : ∀ x ∈ order, r.Usable n os calm x := by
    intro x hx
    obtain ⟨e, he⟩ := horder.registered x hx
    obtain ⟨seed, hseed⟩ := hmade x e ((hreach x).mp hx) he
    exact ⟨e, seed, he, hseed, hpresent x e ((hreach x).mp hx) he⟩
  obtain ⟨s', hall, hvisit⟩ := visits hos horder s husable hs hclosed (by simp [hmarks])
  obtain ⟨t, hfinds⟩ := hall.of_resolveAll (.resolveById id)
  have hrun := hfinds.run (.resolveById id)
  obtain ⟨hgrows, hself⟩ := resolver_resolveById (r := r) (n := n) id s
  rw [hrun] at hgrows hself
  obtain ⟨e, he⟩ := horder.registered id ((hreach id).mpr .refl)
  refine ⟨t, s', order, hrun, horder, hfinds [], fun x => ?_, ToolCache.nodup_lacking _ _,
    hvisit.contains, fun x u => hgrows.kept, resolveById_of_cached he hself⟩
  rw [ToolCache.mem_lacking, hreach]

def diamond : ToolRegistry Unit where
  entries := [Tool.commandNeeding "top" ["left", "right"], Tool.commandNeeding "left" ["base"],
    Tool.commandNeeding "right" ["base"], Tool.commandNeeding "base" []]

lemma postOrder_diamond : diamond.PostOrder ["top"] ["base", "left", "base", "right", "top"] := by
  have base : diamond.PostOrder ["base"] ([] ++ ["base"]) := .cons rfl .nil .nil
  have right : diamond.PostOrder ["right"] (["base"] ++ ["right"]) := .cons rfl base .nil
  have both : diamond.PostOrder ["left", "right"] (["base"] ++ "left" :: ["base", "right"]) :=
    .cons rfl base right
  have top : diamond.PostOrder ["top"] (["base", "left", "base", "right"] ++ ["top"]) :=
    .cons rfl both .nil
  exact top

theorem resolveById_probes_diamond :
    let n : Node Unit := .replying fun _ => ⟨0, "", ""⟩
    let start : Equipped Unit := { node := { machine := (), os := some .unknown } }
    ∃ t s', diamond.resolveById n "top" start = (.ok t, s') ∧
      (diamond.recorded n).resolveById n.beside "top" (start.recording []) =
        (.ok t, s'.recording (["base", "left", "right", "top"].map (.probed · (.ok true)))) ∧
      s'.node.contacts = .connect :: ["base", "left", "right", "top"].map fun command =>
        .run ⟨"command -v " ++ command, true, none, [], 600000⟩ := by
  intro n start
  have horder : ∀ x, diamond.Reaches "top" x → x ∈ ["base", "left", "base", "right", "top"] :=
    fun x hx => postOrder_diamond.mem_iff.mpr ⟨"top", List.mem_singleton_self _, hx⟩
  have hentry : ∀ x e, diamond.find? x = some e → ∃ command dependencies,
      e = Tool.commandNeeding command dependencies ∧
        finds (fun _ => ⟨0, "", ""⟩) command = .ok true := by
    intro x e he
    have hmem := mem_of_find? he
    simp only [diamond, List.mem_cons, List.not_mem_nil, or_false] at hmem
    rcases hmem with rfl | rfl | rfl | rfl <;> exact ⟨_, _, rfl, rfl⟩
  have hclosed : diamond.Closed {} := by simp [Closed, ToolCache.contains, ToolCache.find?]
  have hreg : ∀ x, diamond.Reaches "top" x → diamond.contains x = true := fun x hx =>
    Option.isSome_iff_exists.mpr (postOrder_diamond.registered x (horder x hx))
  have hcycle : ∀ x, diamond.Reaches "top" x → ¬ diamond.OnCycle x := fun x hx =>
    postOrder_diamond.not_onCycle (horder x hx)
  have hmade : ∀ x e, diamond.Reaches "top" x → diamond.find? x = some e →
      ∃ seed, e.create .unknown diamond.config = .ok seed := by
    intro x e _ he
    obtain ⟨command, dependencies, rfl, -⟩ := hentry x e he
    exact ⟨_, rfl⟩
  have hpresent : ∀ x e, diamond.Reaches "top" x → diamond.find? x = some e →
      diamond.Answers n .unknown (Plain .unknown) e (.ok true) := by
    intro x e _ he
    obtain ⟨command, dependencies, rfl, hfinds⟩ := hentry x e he
    rw [← hfinds]
    exact answers_commandNeeding (Node.replies_replying _) rfl _ _ _
  obtain ⟨t, s', order, hrun, hpost, hprobes, -⟩ := resolveById_probes_in_postOrder
    (s := start) (fun st h => h.1) ⟨rfl, rfl⟩ rfl hclosed hreg hcycle hmade hpresent
  have hlack : start.tools.lacking order = ["base", "left", "right", "top"] := by
    rw [hpost.unique postOrder_diamond]
    decide
  rw [hlack] at hprobes
  refine ⟨t, s', hrun, hprobes, ?_⟩
  have hsent : (diamond.resolveById n "top" start).2.node.contacts = .connect ::
      ["base", "left", "right", "top"].map fun command =>
        .run ⟨"command -v " ++ command, true, none, [], 600000⟩ := by
    decide +kernel
  rwa [hrun] at hsent

end ToolRegistry

end HostProbe
