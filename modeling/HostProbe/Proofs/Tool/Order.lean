import HostProbe.Proofs.Tool.Dependency

/-! The depth-first post-order of declared dependencies. It is the order in which the trees that the
dependencies unfold to list their ids, an id after what it depends on and once for each way to it; a
graph has it below an id exactly if all that can be reached is registered and no cycle is. -/

namespace HostProbe

variable {σ : Type}

def ToolCache.lacking (c : ToolCache) (order : List String) : List String :=
  (order.filter fun x => !c.contains x).eraseDups

namespace ToolCache

variable {c d : ToolCache} {x : String} {order : List String}

lemma mem_lacking : x ∈ c.lacking order ↔ x ∈ order ∧ ¬ c.contains x = true := by
  simp [lacking, List.mem_eraseDups]

lemma lacking_eq_nil (h : ∀ x ∈ order, c.contains x = true) : c.lacking order = [] := by
  rw [lacking, List.filter_eq_nil_iff.mpr fun x hx => by simp [h x hx]]
  rfl

lemma lacking_singleton (h : ¬ c.contains x = true) : c.lacking [x] = [x] := by
  simp [lacking, h, List.eraseDups_cons]

lemma lacking_append {order' : List String}
    (h : ∀ x, d.contains x = true ↔ c.contains x = true ∨ x ∈ c.lacking order) :
    c.lacking (order ++ order') = c.lacking order ++ d.lacking order' := by
  rw [lacking, List.filter_append, List.eraseDups_append]
  congr 2
  rw [List.removeAll, List.filter_filter]
  refine List.filter_congr fun x _ => ?_
  have hx := h x
  rw [mem_lacking] at hx
  cases hc : c.contains x <;> cases hd : d.contains x <;> simp_all

lemma nodup_lacking (c : ToolCache) (order : List String) : (c.lacking order).Nodup := by
  rw [lacking]
  generalize hl : order.filter (fun x => !c.contains x) = l
  clear hl
  induction hn : l.length using Nat.strongRecOn generalizing l with
  | _ k ih =>
    cases l with
    | nil => simp
    | cons x rest =>
      rw [List.eraseDups_cons, List.nodup_cons]
      refine ⟨by simp [List.mem_eraseDups], ih _ ?_ _ rfl⟩
      rw [← hn]
      exact Nat.lt_succ_of_le (List.length_filter_le _ _)

end ToolCache

namespace ToolRegistry

inductive PostOrder (r : ToolRegistry σ) : List String → List String → Prop
  | nil : PostOrder r [] []
  | cons {id e rest below after} : r.find? id = some e → PostOrder r e.dependencies below →
      PostOrder r rest after → PostOrder r (id :: rest) (below ++ id :: after)

variable {r : ToolRegistry σ}

namespace PostOrder

lemma append {ids ids' order order' : List String} (h : PostOrder r ids order)
    (h' : PostOrder r ids' order') : PostOrder r (ids ++ ids') (order ++ order') := by
  induction h with
  | nil => exact h'
  | cons he hbelow _ _ ih =>
    rw [List.append_assoc]
    exact .cons he hbelow ih

lemma of_forall {ids : List String} (h : ∀ id ∈ ids, ∃ order, PostOrder r [id] order) :
    ∃ order, PostOrder r ids order := by
  induction ids with
  | nil => exact ⟨[], .nil⟩
  | cons id rest ih =>
    obtain ⟨order, horder⟩ := h id List.mem_cons_self
    obtain ⟨after, hafter⟩ := ih fun x hx => h x (List.mem_cons_of_mem _ hx)
    exact ⟨order ++ after, horder.append hafter⟩

lemma mem_iff {ids order : List String} (h : PostOrder r ids order) {x : String} :
    x ∈ order ↔ ∃ id ∈ ids, r.Reaches id x := by
  induction h with
  | nil => simp
  | @cons id e rest below after he _ _ ihbelow ihafter =>
    rw [List.mem_append, List.mem_cons, ihbelow, ihafter]
    constructor
    · rintro (⟨d, hd, hx⟩ | rfl | ⟨i, hi, hx⟩)
      · exact ⟨id, List.mem_cons_self, .head ((dependsOn_iff he).mpr hd) hx⟩
      · exact ⟨x, List.mem_cons_self, .refl⟩
      · exact ⟨i, List.mem_cons_of_mem _ hi, hx⟩
    · rintro ⟨i, _ | ⟨_, hi⟩, hx⟩
      · rcases Relation.ReflTransGen.cases_head hx with rfl | ⟨d, hd, hx⟩
        · exact .inr (.inl rfl)
        · exact .inl ⟨d, (dependsOn_iff he).mp hd, hx⟩
      · exact .inr (.inr ⟨i, hi, hx⟩)

lemma acc {ids order : List String} (h : PostOrder r ids order) :
    ∀ id ∈ ids, Acc (fun b a => r.DependsOn a b) id := by
  induction h with
  | nil => simp
  | cons he _ _ ihbelow ihafter =>
    rintro i (_ | ⟨_, hi⟩)
    · exact Acc.intro _ fun d hd => ihbelow d ((dependsOn_iff he).mp hd)
    · exact ihafter i hi

lemma unique {ids order order' : List String} (h : PostOrder r ids order)
    (h' : PostOrder r ids order') : order = order' := by
  induction h generalizing order' with
  | nil =>
    cases h'
    rfl
  | cons he _ _ ihbelow ihafter =>
    obtain - | ⟨he', hbelow', hafter'⟩ := h'
    obtain rfl := Option.some.inj (he.symm.trans he')
    rw [ihbelow hbelow', ihafter hafter']

lemma registered {ids order : List String} (h : PostOrder r ids order) :
    ∀ x ∈ order, ∃ e, r.find? x = some e := by
  induction h with
  | nil => simp
  | @cons id e rest below after he _ _ ihbelow ihafter =>
    intro x hx
    rcases List.mem_append.mp hx with hx | hx
    · exact ihbelow x hx
    · rcases List.mem_cons.mp hx with rfl | hx
      · exact ⟨e, he⟩
      · exact ihafter x hx

end PostOrder

lemma not_onCycle_of_acc {id : String} (h : Acc (fun b a => r.DependsOn a b) id) :
    ¬ r.OnCycle id := by
  have key : ∀ {x}, Acc (Relation.TransGen fun b a => r.DependsOn a b) x → ¬ r.OnCycle x := by
    intro x hx
    induction hx with
    | intro x _ ih => exact fun hc => ih x (Relation.transGen_swap.mpr hc) hc
  exact key h.transGen

lemma PostOrder.not_onCycle {ids order : List String} (h : PostOrder r ids order) {x : String}
    (hx : x ∈ order) : ¬ r.OnCycle x := by
  obtain ⟨id, hid, hreach⟩ := h.mem_iff.mp hx
  refine not_onCycle_of_acc ?_
  clear hx
  induction hreach with
  | refl => exact h.acc id hid
  | tail _ hd ih => exact ih.inv hd

lemma exists_postOrder {id : String} (hreg : ∀ x, r.Reaches id x → ∃ e, r.find? x = some e)
    (hcycle : ∀ x, r.Reaches id x → ¬ r.OnCycle x) : ∃ order, PostOrder r [id] order := by
  have hacc := acc_of_no_cycle hcycle
  clear hcycle
  induction hacc with
  | intro id _ ih =>
    obtain ⟨e, he⟩ := hreg id .refl
    have hdeps : ∀ d ∈ e.dependencies, ∃ order, PostOrder r [d] order := by
      intro d hd
      have hd' : r.DependsOn id d := (dependsOn_iff he).mpr hd
      exact ih d hd' fun x hx => hreg x (.head hd' hx)
    obtain ⟨below, hbelow⟩ := PostOrder.of_forall hdeps
    exact ⟨below ++ [id], .cons he hbelow .nil⟩

end ToolRegistry

end HostProbe
