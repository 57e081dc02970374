import HostProbe.Proofs.Tool.Depth
import HostProbe.Proofs.Tool.Presence
import HostProbe.Proofs.Tool.Verdict

/-! Resolutions on a node whose probes never change their answers. What earlier resolutions left in
the cache is sound, and marks are never reached from it, so that the fault of a resolution is the one
that a node without tools has. -/

namespace HostProbe

variable {σ : Type}

def faultOf {α : Type} : Except Fault α → Option Fault
  | .ok _ => none
  | .error f => some f

lemma faultOf_eq_none {α : Type} {result : Except Fault α} :
    faultOf result = none ↔ ∃ x, result = .ok x := by
  cases result <;> simp [faultOf]

namespace ToolRegistry

open ToolM

/-- In the states `calm` the system is known. The steps of a probe keep these states, and whatever
tools the node has, the probe gives the answer for its id. No tool can be installed. -/
structure Steady (r : ToolRegistry σ) (n : Node σ) (os : Os) (calm : NodeState σ → Prop)
    (answer : String → Except Fault Bool) : Prop where
  known st : calm st → st.os = some os
  keeps {id e seed} serial : r.find? id = some e → e.create os r.config = .ok seed →
    (e.probe n (e.tool serial seed)).Keeps calm
  answers {id e seed} serial s : r.find? id = some e → e.create os r.config = .ok seed →
    calm s.node → (r.perform n (e.probe n (e.tool serial seed)) s).1 = answer id
  fixed {id e seed} : r.find? id = some e → e.create os r.config = .ok seed →
    seed.canInstall = false

structure Sane (r : ToolRegistry σ) (n : Node σ) (os : Os) (calm : NodeState σ → Prop)
    (answer : String → Except Fault Bool) (s : Equipped σ) : Prop where
  isCalm : calm s.node
  closed : r.Closed s.tools
  sound x : s.tools.contains x = true → r.Sound n os answer x
  uncached x : x ∈ s.tools.resolving → s.tools.find? x = none

variable {r : ToolRegistry σ} {n : Node σ} {os : Os} {calm : NodeState σ → Prop}
  {answer : String → Except Fault Bool} {e : ToolEntry σ} {s s' : Equipped σ} {id : String}
  {inner : String → ToolM σ Tool} {marks : List String}

lemma Sane.fresh {node : NodeState σ} (h : calm node) : Sane r n os calm answer { node } where
  isCalm := h
  closed a b _ ha := by simp [ToolCache.contains, ToolCache.find?] at ha
  sound x hx := by simp [ToolCache.contains, ToolCache.find?] at hx
  uncached x hx := by simp at hx

lemma Sane.of_grows (h : Sane r n os calm answer s) (hg : Grows r s.tools s'.tools)
    (hcalm : calm s'.node) (hsound : ∀ x, s'.tools.contains x = true → r.Sound n os answer x) :
    Sane r n os calm answer s' where
  isCalm := hcalm
  closed := hg.closed h.closed
  sound := hsound
  uncached x hx := by
    rw [hg.marks] at hx
    exact (hg.ofMarked hx).trans (h.uncached x hx)

lemma Sane.of_same (h : Sane r n os calm answer s) (hcalm : calm s'.node)
    (hresolved : s'.tools.resolved = s.tools.resolved)
    (hmarks : s'.tools.resolving = s.tools.resolving) : Sane r n os calm answer s' := by
  have hfind : ∀ x, s'.tools.find? x = s.tools.find? x := fun x => by
    rw [ToolCache.find?, ToolCache.find?, hresolved]
  constructor
  · exact hcalm
  · intro a b hab
    rw [ToolCache.contains_congr (hfind a), ToolCache.contains_congr (hfind b)]
    exact h.closed hab
  · intro x hx
    rw [ToolCache.contains_congr (hfind x)] at hx
    exact h.sound x hx
  · intro x hx
    rw [hmarks] at hx
    rw [hfind, h.uncached x hx]

lemma Sane.begin (h : Sane r n os calm answer s) (hn : s.tools.find? id = none) :
    Sane r n os calm answer { s with tools := s.tools.begin id } where
  isCalm := h.isCalm
  closed := h.closed
  sound := h.sound
  uncached x hx := by
    rcases List.mem_cons.mp hx with rfl | hx
    · exact hn
    · exact h.uncached x hx

lemma Sane.not_reaches (h : Sane r n os calm answer s) (hid : s.tools.contains id = true) :
    ∀ m ∈ s.tools.resolving, ¬ r.Reaches id m := by
  intro m hm hreach
  exact ToolCache.not_contains_iff.mpr (h.uncached m hm) (h.closed.reaches hreach hid)

/-- Resolving ids from sane states with these marks ends in the faults that are foretold, and in sane
states. -/
def Foretold (r : ToolRegistry σ) (n : Node σ) (os : Os) (calm : NodeState σ → Prop)
    (answer : String → Except Fault Bool) (marks : List String) (inner : String → ToolM σ Tool)
    (fault : String → Option Fault) : Prop :=
  ∀ id s, Sane r n os calm answer s → s.tools.resolving = marks →
    faultOf (inner id s).1 = fault id ∧ Sane r n os calm answer (inner id s).2

lemma supply_state (inner : String → ToolM σ Tool) (w : ToolRequest) (s : Equipped σ) :
    (r.supply inner w s).2 = s ∨ ∃ id, (r.supply inner w s).2 = (inner id s).2 := by
  cases w with
  | ofId id => exact .inr ⟨id, rfl⟩
  | ofKind ref =>
    simp only [supply, resolveAs]
    cases r.find? ref.id with
    | none => exact .inl rfl
    | some e =>
      dsimp only
      split
      · exact .inl rfl
      · refine .inr ⟨ref.id, ?_⟩
        rw [bind_apply]
        rcases inner ref.id s with ⟨_ | t, s'⟩
        · rfl
        · dsimp only
          split <;> rfl

section Pieces

variable {fault : String → Option Fault} (hres : Resolver r inner)
  (h : Foretold r n os calm answer marks inner fault)
include hres h

lemma foretold_resolveAll (ids : List String) (hs : Sane r n os calm answer s)
    (hmarks : s.tools.resolving = marks) :
    faultOf (resolveAll inner ids s).1 = ids.findSome? fault ∧
      Sane r n os calm answer (resolveAll inner ids s).2 := by
  induction ids generalizing s with
  | nil => exact ⟨rfl, hs⟩
  | cons id rest ih =>
    obtain ⟨hfault, hsane⟩ := h id s hs hmarks
    have hkept := (hres.grown id s).marks
    rw [resolveAll, bind_apply, List.findSome?_cons, ← hfault]
    generalize inner id s = out at hsane hkept ⊢
    rcases out with ⟨f | t, s₁⟩
    · exact ⟨rfl, hsane⟩
    · exact ih hsane (hkept.trans hmarks)

lemma sane_run {α : Type} {p : Procedure σ α} (hp : p.Keeps calm)
    (hs : Sane r n os calm answer s) (hmarks : s.tools.resolving = marks) :
    Sane r n os calm answer (p.run (r.supply inner) s).2 := by
  induction p generalizing s with
  | done x => exact hs
  | step β a next ih =>
    obtain ⟨hcalm, hnext⟩ := hp s.node hs.isCalm
    exact ih _ hnext (hs.of_same hcalm rfl rfl) hmarks
  | request w next ih =>
    have hkept := (within_supply (r := r) hres.grown w s).marks
    have hsane : Sane r n os calm answer (r.supply inner w s).2 := by
      rcases supply_state (r := r) inner w s with heq | ⟨id, heq⟩
      · rwa [heq]
      · rw [heq]
        exact (h id s hs hmarks).2
    exact ih _ (hp _) hsane (hkept.trans hmarks)
  | look next ih => exact ih _ (hp _) hs hmarks

end Pieces

section Steady

variable {fault : String → Option Fault} (hsteady : Steady r n os calm answer)
  (h : Foretold r n os calm answer marks (r.resolveById n) fault)
include hsteady h

lemma foretold_provide (he : r.find? id = some e) (hs : Sane r n os calm answer s)
    (hmarks : s.tools.resolving = marks) :
    faultOf (r.provide e n (r.supply (r.resolveById n)) s).1 = r.flaw n os answer id ∧
      Sane r n os calm answer (r.provide e n (r.supply (r.resolveById n)) s).2 := by
  have hos := hsteady.known _ hs.isCalm
  rw [flaw, he]
  dsimp only
  cases hc : e.create os r.config with
  | error f =>
    rw [provide_of_not_made hos hc]
    exact ⟨rfl, hs⟩
  | ok seed =>
    have hmade : Sane r n os calm answer
        { s with tools := { s.tools with next := s.tools.next + 1 } } :=
      hs.of_same hs.isCalm rfl rfl
    have hanswer := hsteady.answers s.tools.next _ he hc hmade.isCalm
    have hsane := sane_run resolver_resolveById h (hsteady.keeps s.tools.next he hc) hmade hmarks
    rw [provide_of_made hos hc rfl, probe]
    rw [perform] at hanswer
    generalize (e.probe n (e.tool s.tools.next seed)).run _ _ = out at hanswer hsane ⊢
    obtain ⟨result, s₁⟩ := out
    obtain rfl : result = answer id := hanswer
    rcases answer id with f | _ | _
    · exact ⟨rfl, hsane⟩
    · rw [hsteady.fixed he hc]
      exact ⟨rfl, hsane⟩
    · exact ⟨rfl, hsane⟩

lemma foretold_obtain (he : r.find? id = some e) (hs : Sane r n os calm answer s)
    (hmarks : s.tools.resolving = marks) :
    faultOf (r.obtain e n (r.resolveById n) s).1 =
        (e.dependencies.findSome? fault).or (r.flaw n os answer id) ∧
      Sane r n os calm answer (r.obtain e n (r.resolveById n) s).2 := by
  obtain ⟨hfault, hsane⟩ := foretold_resolveAll resolver_resolveById h e.dependencies hs hmarks
  have hkept := (within_resolveAll (resolver_resolveById (r := r) (n := n)).grown e.dependencies s).marks
  rw [obtain, bind_apply, ← hfault]
  generalize resolveAll (r.resolveById n) e.dependencies s = out at hsane hkept ⊢
  rcases out with ⟨f | u, s₁⟩
  · exact ⟨rfl, hsane⟩
  · exact foretold_provide hsteady h he hsane (hkept.trans hmarks)

lemma foretold_fresh (he : r.find? id = some e) (ht : s.tools.find? id = none)
    (hm : id ∉ s.tools.resolving) (hs : Sane r n os calm answer s)
    (hmarks : marks = id :: s.tools.resolving) {v : Option Fault}
    (hv : (e.dependencies.findSome? fault).or (r.flaw n os answer id) = v)
    (hsound : v = none → r.Sound n os answer id) :
    faultOf (r.resolveById n id s).1 = v ∧ Sane r n os calm answer (r.resolveById n id s).2 := by
  obtain ⟨hfault, hsane⟩ := foretold_obtain hsteady h he (hs.begin ht) hmarks.symm
  have hgrows := (resolver_resolveById (r := r) (n := n)).grown id s
  rw [resolveById_eq, resolveWith_of_fresh he ht hm] at hgrows ⊢
  rw [hv] at hfault
  rw [← hfault] at hsound ⊢
  generalize r.obtain e n (r.resolveById n) { s with tools := s.tools.begin id } = out
    at hsane hgrows hsound ⊢
  rcases out with ⟨f | t, s₁⟩
  · exact ⟨rfl, hs.of_grows hgrows hsane.isCalm hsane.sound⟩
  · refine ⟨rfl, hs.of_grows hgrows hsane.isCalm fun x hx => ?_⟩
    by_cases hxid : x = id
    · subst hxid
      exact hsound rfl
    · rw [ToolCache.contains, ToolCache.find?_insert_of_ne hxid] at hx
      exact hsane.sound x hx

end Steady

lemma foretold_resolveById (hsteady : Steady r n os calm answer) {k : Nat}
    (hk : r.unmarked marks < k) :
    Foretold r n os calm answer marks (r.resolveById n) (r.verdict n os answer k marks) := by
  -- inside a resolution one more entry is marked, so that fewer are left to descend into
  induction k generalizing marks with
  | zero => omega
  | succ k ih =>
    rintro id s hs rfl
    cases he : r.find? id with
    | none =>
      rw [resolveById_eq, resolveWith_of_unknown he, verdict, he]
      exact ⟨rfl, hs⟩
    | some e =>
      cases ht : s.tools.find? id with
      | some t =>
        have hc : s.tools.contains id = true := ToolCache.contains_iff.mpr ⟨t, ht⟩
        rw [resolveById_of_cached he ht, (hs.sound id hc).verdict_eq_none hk (hs.not_reaches hc)]
        exact ⟨rfl, hs⟩
      | none =>
        by_cases hm : id ∈ s.tools.resolving
        · rw [resolveById_eq, resolveWith_of_marked he ht hm, verdict, he]
          exact ⟨by simp [hm, faultOf], hs⟩
        · have hlower : r.unmarked (id :: s.tools.resolving) < k :=
            Nat.lt_of_lt_of_le (unmarked_cons_lt he hm) (Nat.le_of_lt_succ hk)
          exact foretold_fresh hsteady (ih hlower) he ht hm hs rfl (verdict_succ he hm).symm
            sound_of_verdict

lemma sane_afterAll (hsteady : Steady r n os calm answer) (hs : Sane r n os calm answer s)
    (history : List String) :
    Sane r n os calm answer (r.afterAll n s (history.map .resolveById)) := by
  induction history generalizing s with
  | nil => exact hs
  | cons id rest ih =>
    exact ih (foretold_resolveById hsteady (Nat.lt_succ_self _) id s hs rfl).2

/-- On a node whose system is known and whose probes give answers by id alone, with no tool that can
be installed, the fault of a resolution does not depend on the resolutions before it. It succeeds
exactly if all that the id reaches is registered, can be made and is found by its probe, and no cycle
is reached. A circular dependency is met only if a cycle is reached, unless it is what the factory or
the probe of a tool itself fails with. -/
theorem resolveById_fault_ignores_history (hsteady : r.Steady n os calm answer)
    {node fresh : NodeState σ} (hnode : calm node) (hfresh : calm fresh) (history : List String)
    (id : String) :
    let result := (r.resolveById n id (r.afterAll n { node } (history.map .resolveById))).1
    faultOf result = faultOf (r.resolveById n id { node := fresh }).1 ∧
    ((∃ t, result = .ok t) ↔
      (∀ x, r.Reaches id x → ∃ e seed, r.find? x = some e ∧ e.create os r.config = .ok seed ∧
        answer x = .ok true) ∧
      ∀ x, r.Reaches id x → ¬ r.OnCycle x) ∧
    ∀ c, result = .error (.circularDependency c) →
      (∃ x, r.Reaches id x ∧ r.OnCycle x) ∨
      ∃ x e, r.Reaches id x ∧ r.find? x = some e ∧
        (e.create os r.config = .error (.circularDependency c) ∨
          answer x = .error (.circularDependency c)) := by
  intro result
  have hk : r.unmarked [] < r.depthLimit := r.unmarked_lt_depthLimit []
  have hforetold := foretold_resolveById hsteady hk
  have hsane := sane_afterAll hsteady (.fresh hnode) history
  have hmarks : (r.afterAll n { node } (history.map .resolveById)).tools.resolving = [] :=
    marks_afterAll { node } _
  have hresult : faultOf result = r.verdict n os answer r.depthLimit [] id :=
    (hforetold id _ hsane hmarks).1
  have hverdict : r.verdict n os answer r.depthLimit [] id = none ↔ r.Sound n os answer id :=
    ⟨sound_of_verdict, fun h => h.verdict_eq_none hk (by simp)⟩
  refine ⟨?_, ?_, fun c hc => ?_⟩
  · rw [hresult]
    exact (hforetold id _ (.fresh hfresh) rfl).1.symm
  · rw [← faultOf_eq_none, hresult, hverdict]
    simp only [sound_iff, flaw_eq_none]
  · rw [hc] at hresult
    rcases verdict_eq_some hk hresult.symm with ⟨m, hm, -⟩ | hcycle | ⟨x, hx, hflaw⟩
    · cases hm
    · exact .inl hcycle
    · obtain ⟨e, he, hown⟩ := flaw_eq_circularDependency hflaw
      exact .inr ⟨x, e, hx, he, hown⟩

lemma steady_of_commands {reply : String → CommandOutput} (hreply : n.transport.Replies reply)
    (hsudo : n.alwaysSudo = false)
    (hcommand : ∀ e ∈ r.entries, ∃ command dependencies,
      e = Tool.commandNeeding command dependencies) :
    Steady r n os (Plain os) (finds reply) where
  known _ h := h.1
  keeps {id e seed} serial he _ := by
    obtain ⟨command, dependencies, rfl⟩ := hcommand e (mem_of_find? he)
    exact Tool.keeps_probeCommand hreply hsudo _
  answers {id e seed} serial s he hc hs := by
    obtain ⟨command, dependencies, rfl⟩ := hcommand e (mem_of_find? he)
    obtain rfl : command = id := id_of_find? he
    obtain ⟨node, -, hrun⟩ := answers_commandNeeding hreply hsudo r command dependencies seed hc
      serial (r.supply (r.resolveById n)) s hs
    rw [perform, hrun]
  fixed {id e seed} he hc := by
    obtain ⟨command, dependencies, rfl⟩ := hcommand e (mem_of_find? he)
    cases hc
    rfl

def lopsided : ToolRegistry Unit where
  entries := [Tool.commandNeeding "top" ["base", "gone"], Tool.commandNeeding "base" [],
    Tool.commandNeeding "gone" [], Tool.commandNeeding "knot" ["base", "knot"]]

theorem resolveById_fault_lopsided :
    let n := Node.replying fun line => ⟨if line = "command -v gone" then 1 else 0, "", ""⟩
    let start : NodeState Unit := { machine := (), os := some .unknown }
    let result := (lopsided.resolveById n "top"
      (lopsided.afterAll n { node := start } (["knot", "top"].map .resolveById))).1
    faultOf result = faultOf (lopsided.resolveById n "top" { node := start }).1 ∧
      ¬ ∃ t, result = .ok t := by
  intro n start result
  have hcommand : ∀ e ∈ lopsided.entries, ∃ command dependencies,
      e = Tool.commandNeeding command dependencies := by
    simp only [lopsided, List.mem_cons, List.not_mem_nil, or_false]
    rintro e (rfl | rfl | rfl | rfl) <;> exact ⟨_, _, rfl⟩
  have hsteady : lopsided.Steady n .unknown (Plain .unknown) (finds _) :=
    steady_of_commands (Node.replies_replying _) rfl hcommand
  have hstart : Plain .unknown start := ⟨rfl, rfl⟩
  obtain ⟨hsame, hok, -⟩ :=
    resolveById_fault_ignores_history hsteady hstart hstart ["knot", "top"] "top"
  refine ⟨hsame, fun h => ?_⟩
  obtain ⟨e, seed, -, -, hanswer⟩ := (hok.mp h).1 "gone" (.single ⟨_, rfl, by decide⟩)
  have hgone : finds (fun line => ⟨if line = "command -v gone" then 1 else 0, "", ""⟩) "gone" =
      .ok false := by decide +kernel
  rw [hgone] at hanswer
  cases hanswer

end ToolRegistry

end HostProbe
