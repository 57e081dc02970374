import HostProbe.Proofs.Tool.Probe
import HostProbe.Proofs.Tool.Resolution

/-! The fault of a resolution as a function of what is declared and of what the probes answer. A cache
takes no part in it: a descent that forgets all that it found comes to the same fault. -/

namespace HostProbe.ToolRegistry

variable {σ : Type} (r : ToolRegistry σ) (n : Node σ) (os : Os) (answer : String → Except Fault Bool)

def flaw (id : String) : Option Fault :=
  match r.find? id with
  | none => some (.unknownTool id)
  | some e => match e.create os r.config with
    | .error f => some f
    | .ok seed => match answer id with
      | .error f => some f
      | .ok true => none
      | .ok false => some (missing n (e.tool 0 seed) "not installed and cannot be installed")

def verdict : Nat → List String → String → Option Fault
  | 0, _, id => some (.circularDependency id)
  | k + 1, marks, id => match r.find? id with
    | none => some (.unknownTool id)
    | some e =>
      if id ∈ marks then some (.circularDependency id)
      else (e.dependencies.findSome? (verdict k (id :: marks))).or (r.flaw n os answer id)

structure Sound (id : String) : Prop where
  flawless x : r.Reaches id x → r.flaw n os answer x = none
  acyclic x : r.Reaches id x → ¬ r.OnCycle x

variable {r n os answer} {id d : String} {e : ToolEntry σ} {marks : List String} {k : Nat}

lemma flaw_eq_none : r.flaw n os answer id = none ↔ ∃ e seed, r.find? id = some e ∧
    e.create os r.config = .ok seed ∧ answer id = .ok true := by
  unfold flaw
  cases r.find? id with
  | none => simp
  | some e =>
    cases hc : e.create os r.config with
    | error f => simp [hc]
    | ok seed => rcases answer id with f | _ | _ <;> simp [hc]

lemma flaw_eq_circularDependency {x : String}
    (h : r.flaw n os answer id = some (.circularDependency x)) : ∃ e, r.find? id = some e ∧
      (e.create os r.config = .error (.circularDependency x) ∨
        answer id = .error (.circularDependency x)) := by
  unfold flaw at h
  cases he : r.find? id with
  | none => simp [he] at h
  | some e =>
    refine ⟨e, rfl, ?_⟩
    cases hc : e.create os r.config with
    | error f => exact .inl (by simpa [he, hc] using h)
    | ok seed => rcases ha : answer id with f | _ | _ <;> simp_all [missing]

lemma verdict_succ (he : r.find? id = some e) (hm : id ∉ marks) :
    r.verdict n os answer (k + 1) marks id =
      (e.dependencies.findSome? (r.verdict n os answer k (id :: marks))).or
        (r.flaw n os answer id) := by
  rw [verdict, he]
  exact if_neg hm

lemma sound_iff : r.Sound n os answer id ↔
    (∀ x, r.Reaches id x → r.flaw n os answer x = none) ∧ ∀ x, r.Reaches id x → ¬ r.OnCycle x :=
  ⟨fun h => ⟨h.flawless, h.acyclic⟩, fun h => ⟨h.1, h.2⟩⟩

lemma Sound.registered (h : r.Sound n os answer id) : ∃ e, r.find? id = some e := by
  obtain ⟨e, _, he, _⟩ := flaw_eq_none.mp (h.flawless id .refl)
  exact ⟨e, he⟩

lemma Sound.dependency (h : r.Sound n os answer id) (hd : r.DependsOn id d) :
    r.Sound n os answer d where
  flawless x hx := h.flawless x (.head hd hx)
  acyclic x hx := h.acyclic x (.head hd hx)

lemma Sound.of_dependencies (hid : r.flaw n os answer id = none)
    (h : ∀ d, r.DependsOn id d → r.Sound n os answer d) : r.Sound n os answer id where
  flawless x hx := by
    rcases Relation.ReflTransGen.cases_head hx with rfl | ⟨d, hd, hx⟩
    · exact hid
    · exact (h d hd).flawless x hx
  acyclic x hx hcycle := by
    rcases Relation.ReflTransGen.cases_head hx with rfl | ⟨d, hd, hx⟩
    · obtain ⟨d, hd, hback⟩ := Relation.TransGen.head'_iff.mp hcycle
      exact (h d hd).acyclic id hback hcycle
    · exact (h d hd).acyclic x hx hcycle

lemma Sound.verdict_eq_none (h : r.Sound n os answer id) (hk : r.unmarked marks < k)
    (hm : ∀ m ∈ marks, ¬ r.Reaches id m) : r.verdict n os answer k marks id = none := by
  -- the marks are ids above the descent, and to reach one of them would close a cycle
  have hacc := acc_of_no_cycle h.acyclic
  induction hacc generalizing marks k with
  | intro id _ ih =>
    obtain ⟨e, he⟩ := h.registered
    have hid : id ∉ marks := fun hmem => hm id hmem .refl
    cases k with
    | zero => omega
    | succ k =>
      have hlt := unmarked_cons_lt he hid
      rw [verdict_succ he hid, Option.or_eq_none_iff, List.findSome?_eq_none_iff]
      refine ⟨fun d hd => ?_, h.flawless id .refl⟩
      have hdep : r.DependsOn id d := (dependsOn_iff he).mpr hd
      refine ih d hdep (h.dependency hdep) (by omega) fun m hmem hreach => ?_
      rcases List.mem_cons.mp hmem with rfl | hmem
      · exact h.acyclic m .refl (.head' hdep hreach)
      · exact hm m hmem (.head hdep hreach)

lemma sound_of_verdict (h : r.verdict n os answer k marks id = none) : r.Sound n os answer id := by
  induction k generalizing marks id with
  | zero => cases h
  | succ k ih =>
    cases he : r.find? id with
    | none => simp [verdict, he] at h
    | some e =>
      by_cases hm : id ∈ marks
      · simp [verdict, he, hm] at h
      · rw [verdict_succ he hm, Option.or_eq_none_iff, List.findSome?_eq_none_iff] at h
        refine .of_dependencies h.2 fun d hd => ih (h.1 d ((dependsOn_iff he).mp hd))

lemma verdict_eq_some {f : Fault} (hk : r.unmarked marks < k)
    (h : r.verdict n os answer k marks id = some f) :
    (∃ m ∈ marks, r.Reaches id m) ∨ (∃ x, r.Reaches id x ∧ r.OnCycle x) ∨
      ∃ x, r.Reaches id x ∧ r.flaw n os answer x = some f := by
  induction k generalizing marks id with
  | zero => omega
  | succ k ih =>
    cases he : r.find? id with
    | none =>
      refine .inr (.inr ⟨id, .refl, ?_⟩)
      simpa [verdict, flaw, he] using h
    | some e =>
      by_cases hm : id ∈ marks
      · exact .inl ⟨id, hm, .refl⟩
      · have hlt := unmarked_cons_lt he hm
        rw [verdict_succ he hm, Option.or_eq_some_iff] at h
        rcases h with h | ⟨-, h⟩
        · obtain ⟨d, hd, hfault⟩ := List.exists_of_findSome?_eq_some h
          have hdep : r.DependsOn id d := (dependsOn_iff he).mpr hd
          rcases ih (by omega) hfault with ⟨m, hmem, hreach⟩ | ⟨x, hx, hcycle⟩ | ⟨x, hx, hflaw⟩
          · rcases List.mem_cons.mp hmem with rfl | hmem
            · exact .inr (.inl ⟨m, .refl, .head' hdep hreach⟩)
            · exact .inl ⟨m, hmem, .head hdep hreach⟩
          · exact .inr (.inl ⟨x, .head hdep hx, hcycle⟩)
          · exact .inr (.inr ⟨x, .head hdep hx, hflaw⟩)
        · exact .inr (.inr ⟨id, .refl, h⟩)

end HostProbe.ToolRegistry
