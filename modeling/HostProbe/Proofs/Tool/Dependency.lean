import HostProbe.Proofs.Tool.Cache
import HostProbe.Tool.Registry
import Mathlib.Logic.Relation

/-! The graph of declared dependencies. An id that is registered and not yet marked can be marked
only as often as there are entries, which bounds every descent in the graph that meets no id
twice. -/

namespace HostProbe.ToolRegistry

variable {σ : Type} (r : ToolRegistry σ)

def DependsOn (a b : String) : Prop := ∃ e, r.find? a = some e ∧ b ∈ e.dependencies

def Reaches : String → String → Prop := Relation.ReflTransGen r.DependsOn

def OnCycle (id : String) : Prop := Relation.TransGen r.DependsOn id id

def Closed (c : ToolCache) : Prop :=
  ∀ ⦃a b⦄, r.DependsOn a b → c.contains a = true → c.contains b = true

def unmarked (marks : List String) : Nat := (r.entries.filter (·.ref.id ∉ marks)).length

variable {r} {id : String} {e : ToolEntry σ}

lemma id_of_find? (h : r.find? id = some e) : e.ref.id = id := by
  simpa using List.find?_some h

lemma mem_of_find? (h : r.find? id = some e) : e ∈ r.entries := List.mem_of_find?_eq_some h

lemma dependsOn_iff (h : r.find? id = some e) {d : String} :
    r.DependsOn id d ↔ d ∈ e.dependencies := by
  simp [DependsOn, h]

lemma unmarked_lt_depthLimit (marks : List String) : r.unmarked marks < r.depthLimit :=
  Nat.lt_succ_of_le (List.length_filter_le _ _)

lemma unmarked_cons_lt (h : r.find? id = some e) {marks : List String} (hm : id ∉ marks) :
    r.unmarked (id :: marks) < r.unmarked marks := by
  have hsplit : r.entries.filter (·.ref.id ∉ id :: marks) =
      (r.entries.filter (·.ref.id ∉ marks)).filter (·.ref.id ≠ id) := by
    rw [List.filter_filter]
    congr 1
    funext e
    simp [not_or]
  rw [unmarked, hsplit]
  refine List.length_filter_lt_length_iff_exists.mpr ⟨e, ?_, ?_⟩
  · simpa [id_of_find? h, hm] using mem_of_find? h
  · simp [id_of_find? h]

lemma Closed.reaches {c : ToolCache} (hc : r.Closed c) {a b : String} (h : r.Reaches a b)
    (ha : c.contains a = true) : c.contains b = true := by
  induction h with
  | refl => exact ha
  | tail _ hd ih => exact hc hd ih

lemma acc_of_no_cycle (hid : ∀ x, r.Reaches id x → ¬ r.OnCycle x) :
    Acc (fun b a => r.DependsOn a b) id := by
  suffices h : ∀ k marks x, r.unmarked marks = k → r.Reaches id x →
      (∀ m ∈ marks, Relation.TransGen r.DependsOn m x) → Acc (fun b a => r.DependsOn a b) x from
    h _ [] id rfl .refl (by simp)
  intro k
  induction k using Nat.strongRecOn with
  | _ k ih =>
    rintro marks x rfl hx hmarks
    refine Acc.intro x fun y hy => ?_
    have ⟨e, he, _⟩ := hy
    have hm : x ∉ marks := fun hm => hid x hx (hmarks x hm)
    refine ih _ (unmarked_cons_lt he hm) (x :: marks) y rfl (hx.tail hy) ?_
    intro m hmem
    rcases List.mem_cons.mp hmem with rfl | hmem
    · exact .single hy
    · exact (hmarks m hmem).tail hy

end HostProbe.ToolRegistry
