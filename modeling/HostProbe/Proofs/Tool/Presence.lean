import HostProbe.Proofs.Tool.Record
import HostProbe.Proofs.Tool.Resolution

/-! Runs of calls on a node, in any order and failing or not. After each call the cache has exactly
the tools whose last completed probe found them, by a record of the probes that ran; and as long as no
recheck took a tool out, it has the declared dependencies of all its tools. -/

namespace HostProbe

variable {σ α β : Type}

def ToolEvent.answer? (id : String) : ToolEvent → Option Bool
  | .probed x (.ok present) => if x = id then some present else none
  | _ => none

def lastAnswer (events : List ToolEvent) (id : String) : Option Bool :=
  events.reverse.findSome? (·.answer? id)

lemma lastAnswer_concat (events : List ToolEvent) (x : ToolEvent) (id : String) :
    lastAnswer (events ++ [x]) id = (x.answer? id).or (lastAnswer events id) := by
  simp only [lastAnswer, List.reverse_append, List.reverse_singleton, List.singleton_append,
    List.findSome?_cons]
  cases x.answer? id <;> rfl

def ToolCache.Reflects (c : ToolCache) (events : List ToolEvent) : Prop :=
  ∀ id, c.contains id = true ↔ lastAnswer events id = some true

namespace ToolCache.Reflects

variable {c d : ToolCache} {events : List ToolEvent} {id : String}

lemma of_failed (h : c.Reflects events) (f : Fault) :
    c.Reflects (events ++ [.probed id (.error f)]) := by
  intro x
  rw [lastAnswer_concat]
  exact h x

lemma of_answer {present : Bool} (h : c.Reflects events) (hself : d.contains id = present)
    (hother : ∀ x, x ≠ id → d.find? x = c.find? x) :
    d.Reflects (events ++ [.probed id (.ok present)]) := by
  intro x
  rw [lastAnswer_concat, ToolEvent.answer?]
  by_cases hx : id = x
  · subst hx
    rw [if_pos rfl, hself]
    simp
  · rw [if_neg hx, contains_congr (hother x (Ne.symm hx))]
    exact h x

end ToolCache.Reflects

def Equipped.Honest (s : Equipped (σ × List ToolEvent)) : Prop := s.tools.Reflects s.events

def StaysHonest (s t : Equipped (σ × List ToolEvent)) : Prop := s.Honest → t.Honest

instance : IsPreorder (Equipped (σ × List ToolEvent)) StaysHonest where
  refl _ h := h
  trans _ _ _ h h' hs := h' (h hs)

namespace ToolRegistry

open ToolM

section Probes

variable {r : ToolRegistry σ} {n : Node σ} {e : ToolEntry σ} {id : String} {t : Tool}

def Provides (id : String) (a : ToolM (σ × List ToolEvent) α) : Prop :=
  ∀ s, id ∈ s.tools.resolving → s.tools.find? id = none → s.Honest →
    match a s with
    | (.ok _, t) => ∃ past, t.events = past ++ [.probed id (.ok true)] ∧ t.tools.Reflects past
    | (.error _, t) => t.Honest

lemma honest_onNode (a : NodeM σ α) :
    Within StaysHonest (onNode (a.beside (ρ := List ToolEvent))) := fun _ h => h

lemma honest_run {resolve : ToolRequest → ToolM (σ × List ToolEvent) Tool}
    (h : ∀ w, Within StaysHonest (resolve w)) (p : Procedure σ α) :
    Within StaysHonest (p.beside.run resolve) := by
  induction p with
  | done result => exact fun s => refl s
  | step γ operation next ih => exact fun s => IsTrans.trans _ _ _ (honest_onNode operation s) (ih _ _)
  | request w next ih => exact fun s => IsTrans.trans _ _ _ (h w s) (ih _ _)
  | look next ih => exact fun s => ih s.tools.resolved s

lemma Provides.throw (f : Fault) : Provides id (throw f : ToolM (σ × List ToolEvent) α) :=
  fun _ _ _ h => h

lemma Provides.bind {a : ToolM (σ × List ToolEvent) α} {f : α → ToolM (σ × List ToolEvent) β}
    (hgrown : Within (Grown (r.recorded n)) a) (hhonest : Within StaysHonest a)
    (hf : ∀ x, Provides id (f x)) : Provides id (a >>= f) := by
  intro s hm hn hs
  have hg := hgrown s
  have hh := hhonest s hs
  rw [bind_apply]
  generalize a s = out at hg hh ⊢
  rcases out with ⟨_ | x, s'⟩
  · exact hh
  · exact hf x s' (hg.marks ▸ hm) ((hg.ofMarked hm).trans hn) hh

variable {resolve : ToolRequest → ToolM (σ × List ToolEvent) Tool}
  (hgrown : ∀ w, Within (Grown (r.recorded n)) (resolve w))
  (hhonest : ∀ w, Within StaysHonest (resolve w))

include hgrown hhonest

lemma Provides.probe {found miss : ToolM (σ × List ToolEvent) α}
    (hfound : ∀ s, ∃ x logs, found s = (.ok x, { s with node := { s.node with logs } }))
    (hmiss : Provides e.ref.id miss) :
    Provides e.ref.id (probe (e.recorded n) n.beside resolve t >>=
      fun present => if present = true then found else miss) := by
  intro s hm hn hs
  have hg := grown_run hgrown (e.probe n t).beside s
  have hh := honest_run hhonest (e.probe n t) s hs
  rw [bind_apply, probe_recorded]
  generalize (e.probe n t).beside.run resolve s = out at hg hh ⊢
  rcases out with ⟨f | present, s'⟩
  · exact hh.of_failed f
  · have hn' : s'.tools.find? e.ref.id = none := (hg.ofMarked hm).trans hn
    cases present with
    | true =>
      obtain ⟨x, logs, hx⟩ := hfound (onNode (note (.probed e.ref.id (.ok true))) s').2
      dsimp only
      rw [if_pos rfl, hx]
      exact ⟨s'.events, rfl, hh⟩
    | false =>
      refine hmiss (onNode (note (.probed e.ref.id (.ok false))) s').2 (hg.marks ▸ hm) hn' ?_
      exact hh.of_answer (by simpa [ToolCache.contains] using hn') fun _ _ => rfl

lemma provides_installTool (os : Os) :
    Provides e.ref.id (installTool (e.recorded n) n.beside resolve os t) := by
  refine .bind (r := r) (n := n) (grown_onNode _) (honest_onNode (NodeM.log _ _ _)) fun _ =>
    .bind (r := r) (n := n) (grown_run hgrown _) (honest_run hhonest _) fun _ => ?_
  exact .probe hgrown hhonest (fun s => ⟨t, _, rfl⟩) (.throw _)

lemma provides_provide : Provides e.ref.id ((r.recorded n).provide (e.recorded n) n.beside resolve) := by
  unfold provide
  rw [Node.os_beside]
  refine .bind (r := r) (n := n) (grown_onNode _) (honest_onNode n.os) fun os =>
    .bind (r := r) (n := n) (within_liftM _) (within_liftM _) fun seed =>
    .bind (r := r) (n := n) (fun s => .next s.tools _) (fun s h => h) fun t =>
    .probe hgrown hhonest (fun s => ⟨t, _, rfl⟩) ?_
  cases t.canInstall with
  | false => exact .throw _
  | true => exact provides_installTool hgrown hhonest os

end Probes

section Resolutions

variable {r : ToolRegistry σ} {n : Node σ} {inner : String → ToolM (σ × List ToolEvent) Tool}

lemma honest_resolveWith (hres : Resolver (r.recorded n) inner)
    (h : ∀ id, Within StaysHonest (inner id)) (id : String) :
    Within StaysHonest ((r.recorded n).resolveWith n.beside inner id) := by
  intro s hs
  cases he : r.find? id with
  | none => rwa [resolveWith_of_unknown (find?_recorded_of_none he)]
  | some e =>
    have he' := find?_recorded_of_some (n := n) he
    cases ht : s.tools.find? id with
    | some t => rwa [resolveWith_of_cached he' ht]
    | none =>
      by_cases hm : id ∈ s.tools.resolving
      · rwa [resolveWith_of_marked he' ht hm]
      · obtain rfl : e.ref.id = id := id_of_find? he
        have hobtain : Provides e.ref.id ((r.recorded n).obtain (e.recorded n) n.beside inner) :=
          .bind (r := r) (n := n) (within_resolveAll hres.grown _) (within_resolveAll h _) fun _ =>
            provides_provide (within_supply hres.grown) (within_supply h)
        have hout := hobtain { s with tools := s.tools.begin e.ref.id } List.mem_cons_self ht hs
        rw [resolveWith_of_fresh he' ht hm]
        generalize (r.recorded n).obtain _ n.beside _ _ = out at hout ⊢
        rcases out with ⟨_ | t, s'⟩
        · exact hout
        · obtain ⟨past, hevents, hreflects⟩ := hout
          change ToolCache.Reflects _ s'.events
          rw [hevents]
          refine hreflects.of_answer (by simp [ToolCache.contains]) fun x hx => ?_
          exact ToolCache.find?_insert_of_ne hx

lemma honest_resolveById (id : String) :
    Within StaysHonest ((r.recorded n).resolveById n.beside id) := by
  have hup : ∀ depth id, Within StaysHonest ((r.recorded n).resolveUpTo n.beside
      (fun id => throw (.circularDependency id)) depth id) := by
    intro depth
    induction depth with
    | zero => exact fun _ => within_throw _
    | succ depth ih => exact honest_resolveWith (resolver_resolveUpTo (resolver_throw _) depth) ih
  exact hup _ id

lemma honest_recheck (id : String) : Within StaysHonest ((r.recorded n).recheck n.beside id) := by
  intro s hs
  cases he : r.find? id with
  | none => rwa [recheck_of_unknown (find?_recorded_of_none he)]
  | some e =>
    have he' := find?_recorded_of_some (n := n) he
    cases ht : s.tools.find? id with
    | none => rwa [recheck_of_uncached he' ht]
    | some t =>
      obtain rfl : e.ref.id = id := id_of_find? he
      have hres : Resolver (r.recorded n) ((r.recorded n).resolveById n.beside) := resolver_resolveById
      have hg := grown_run (within_supply (r := r.recorded n) hres.grown) (e.probe n t).beside s
      have hinner : ∀ id, Within StaysHonest ((r.recorded n).resolveById n.beside id) := honest_resolveById
      have hh := honest_run (within_supply (r := r.recorded n) hinner) (e.probe n t) s hs
      rw [recheck_of_cached he' ht, probe_recorded]
      generalize (e.probe n t).beside.run _ s = out at hg hh ⊢
      rcases out with ⟨f | present, s'⟩
      · exact hh.of_failed f
      · have hkept : s'.tools.find? e.ref.id = some t := hg.kept ht
        cases present with
        | true => exact hh.of_answer (by simp [ToolCache.contains, hkept]) fun _ _ => rfl
        | false =>
          refine hh.of_answer (d := s'.tools.erase e.ref.id) (by simp [ToolCache.contains]) fun x hx => ?_
          exact ToolCache.find?_erase_of_ne hx

end Resolutions

inductive Call (σ : Type) : Type 1 where
  | resolve (ref : ToolRef)
  | resolveById (id : String)
  | recheck (id : String)
  | perform (p : Procedure σ Unit)

variable (r : ToolRegistry σ) (n : Node σ)

def after (s : Equipped σ) : Call σ → Equipped σ
  | .resolve ref => (r.resolve n ref s).2
  | .resolveById id => (r.resolveById n id s).2
  | .recheck id => (r.recheck n id s).2
  | .perform p => (r.perform n p s).2

def afterAll (s : Equipped σ) (calls : List (Call σ)) : Equipped σ := calls.foldl (r.after n) s

def Evicts (s : Equipped σ) (c : Call σ) : Prop :=
  ∃ id, c = .recheck id ∧ s.tools.contains id = true ∧ ¬ (r.after n s c).tools.contains id = true

def NoneEvicts : Equipped σ → List (Call σ) → Prop
  | _, [] => True
  | s, c :: rest => ¬ r.Evicts n s c ∧ NoneEvicts (r.after n s c) rest

variable {r n}

lemma recheck_cases (id : String) (s : Equipped σ) :
    Grows r s.tools (r.recheck n id s).2.tools ∨
      ∃ t c, s.tools.find? id = some t ∧ Grows r s.tools c ∧
        (r.recheck n id s).2.tools = c.erase id := by
  cases he : r.find? id with
  | none =>
    rw [recheck_of_unknown he]
    exact .inl (.refl _)
  | some e =>
    cases ht : s.tools.find? id with
    | none =>
      rw [recheck_of_uncached he ht]
      exact .inl (.refl _)
    | some t =>
      have hres : Resolver r (r.resolveById n) := resolver_resolveById
      have hprobe : Grows r s.tools (probe e n (r.supply (r.resolveById n)) t s).2.tools :=
        grown_run (within_supply hres.grown) (e.probe n t) s
      rw [recheck_of_cached he ht]
      generalize probe e n _ t s = out at hprobe ⊢
      rcases out with ⟨_ | _ | _, s'⟩
      · exact .inl hprobe
      · exact .inr ⟨t, s'.tools, rfl, hprobe, rfl⟩
      · exact .inl hprobe

lemma after_cases (s : Equipped σ) (c : Call σ) :
    Grows r s.tools (r.after n s c).tools ∨
      ∃ id t d, c = .recheck id ∧ s.tools.find? id = some t ∧ Grows r s.tools d ∧
        (r.after n s c).tools = d.erase id := by
  have hres : Resolver r (r.resolveById n) := resolver_resolveById
  cases c with
  | resolve ref => exact .inl (within_resolveAs hres.grown ref s)
  | resolveById id => exact .inl (hres.grown id s)
  | perform p => exact .inl (grown_run (within_supply hres.grown) p s)
  | recheck id =>
    rcases recheck_cases (r := r) (n := n) id s with h | ⟨t, d, ht, hd, htools⟩
    · exact .inl h
    · exact .inr ⟨id, t, d, rfl, ht, hd, htools⟩

lemma marks_after (s : Equipped σ) (c : Call σ) :
    (r.after n s c).tools.resolving = s.tools.resolving := by
  rcases after_cases (r := r) (n := n) s c with h | ⟨id, t, d, -, -, hd, htools⟩
  · exact h.marks
  · rw [htools]
    exact hd.marks

lemma closed_after {s : Equipped σ} (hs : r.Closed s.tools) {c : Call σ} (hc : ¬ r.Evicts n s c) :
    r.Closed (r.after n s c).tools := by
  rcases after_cases (r := r) (n := n) s c with h | ⟨id, t, d, rfl, ht, -, htools⟩
  · exact h.closed hs
  · refine absurd ⟨id, rfl, ToolCache.contains_iff.mpr ⟨t, ht⟩, ?_⟩ hc
    rw [htools, ToolCache.not_contains_iff]
    exact ToolCache.find?_erase_self

lemma marks_afterAll (s : Equipped σ) (calls : List (Call σ)) :
    (r.afterAll n s calls).tools.resolving = s.tools.resolving := by
  induction calls generalizing s with
  | nil => rfl
  | cons c rest ih => exact (ih _).trans (marks_after s c)

lemma closed_afterAll {s : Equipped σ} (hs : r.Closed s.tools) {calls : List (Call σ)}
    (hc : r.NoneEvicts n s calls) : r.Closed (r.afterAll n s calls).tools := by
  induction calls generalizing s with
  | nil => exact hs
  | cons c rest ih => exact ih (closed_after hs hc.1) hc.2

section Record

def Call.recorded : Call σ → Call (σ × List ToolEvent)
  | .resolve ref => .resolve ref
  | .resolveById id => .resolveById id
  | .recheck id => .recheck id
  | .perform p => .perform p.beside

lemma recounted_after (s : Equipped σ) (past : List ToolEvent) (c : Call σ) : ∃ new,
    (r.recorded n).after n.beside (s.recording past) c.recorded =
      (r.after n s c).recording (past ++ new) := by
  cases c with
  | resolve ref =>
    obtain ⟨new, h⟩ := Recounts.resolveAs (Recounts.resolveById (r := r) (n := n)) ref s past
    exact ⟨new, congrArg Prod.snd h⟩
  | resolveById id =>
    obtain ⟨new, h⟩ := Recounts.resolveById (r := r) (n := n) id s past
    exact ⟨new, congrArg Prod.snd h⟩
  | recheck id =>
    obtain ⟨new, h⟩ := Recounts.recheck (r := r) (n := n) id s past
    exact ⟨new, congrArg Prod.snd h⟩
  | perform p =>
    obtain ⟨new, h⟩ := Recounts.perform (r := r) (n := n) p s past
    exact ⟨new, congrArg Prod.snd h⟩

lemma recounted_afterAll (s : Equipped σ) (past : List ToolEvent) (calls : List (Call σ)) : ∃ new,
    (r.recorded n).afterAll n.beside (s.recording past) (calls.map .recorded) =
      (r.afterAll n s calls).recording (past ++ new) := by
  induction calls generalizing s past with
  | nil => exact ⟨[], by rw [List.append_nil]; rfl⟩
  | cons c rest ih =>
    obtain ⟨new, hnew⟩ := recounted_after (r := r) (n := n) s past c
    obtain ⟨more, hmore⟩ := ih (r.after n s c) (past ++ new)
    rw [← hnew] at hmore
    exact ⟨new ++ more, by rw [← List.append_assoc]; exact hmore⟩

lemma honest_after {s : Equipped (σ × List ToolEvent)} (hs : s.Honest) (c : Call σ) :
    ((r.recorded n).after n.beside s c.recorded).Honest := by
  cases c with
  | resolve ref => exact within_resolveAs honest_resolveById ref s hs
  | resolveById id => exact honest_resolveById id s hs
  | recheck id => exact honest_recheck id s hs
  | perform p => exact honest_run (within_supply honest_resolveById) p s hs

lemma honest_afterAll {s : Equipped (σ × List ToolEvent)} (hs : s.Honest) (calls : List (Call σ)) :
    ((r.recorded n).afterAll n.beside s (calls.map .recorded)).Honest := by
  induction calls generalizing s with
  | nil => exact hs
  | cons c rest ih => exact ih (honest_after hs c)

end Record

/-- After any calls on a node that had no tools, a tool is cached exactly if its last completed probe
found it, by the record of the same calls in which the probes of all entries are noted; and the cache is
closed under declared dependencies unless a recheck took a tool out. -/
theorem cached_iff_last_probe_found (r : ToolRegistry σ) (n : Node σ) (node : NodeState σ)
    (calls : List (Call σ)) :
    (∃ events, (r.recorded n).afterAll n.beside (Equipped.recording { node } []) (calls.map .recorded) =
        (r.afterAll n { node } calls).recording events ∧
      ∀ id, (r.afterAll n { node } calls).tools.contains id = true ↔
        lastAnswer events id = some true) ∧
    (r.NoneEvicts n { node } calls → ∀ a b, r.DependsOn a b →
      (r.afterAll n { node } calls).tools.contains a = true →
      (r.afterAll n { node } calls).tools.contains b = true) := by
  constructor
  · have hempty : (Equipped.recording { node } []).Honest := by
      intro id
      simp [ToolCache.contains, ToolCache.find?, Equipped.recording, Equipped.events, lastAnswer,
        NodeState.beside]
    obtain ⟨events, hrun⟩ := recounted_afterAll (r := r) (n := n) { node } [] calls
    refine ⟨events, hrun, ?_⟩
    have hhonest := honest_afterAll (r := r) (n := n) hempty calls
    rw [hrun] at hhonest
    exact hhonest
  · intro hc a b hab ha
    have hempty : r.Closed (Equipped.tools { node }) := by
      intro a b _ ha
      simp [ToolCache.contains, ToolCache.find?] at ha
    exact closed_afterAll hempty hc hab ha

end ToolRegistry

end HostProbe
