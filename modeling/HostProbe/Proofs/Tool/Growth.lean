import HostProbe.Proofs.Tool.Dependency
import HostProbe.Proofs.Tool.Operation

/-! What a resolution may do to the tools of a node, whatever the procedures of the tools do: the
marks are what they were, no tool is lost, and a cache that was closed under dependencies stays so. -/

namespace HostProbe.ToolRegistry

open ToolM

variable {σ α β : Type}

structure Grows (r : ToolRegistry σ) (c d : ToolCache) : Prop where
  marks : d.resolving = c.resolving
  kept {id t} : c.find? id = some t → d.find? id = some t
  ofMarked {id} : id ∈ c.resolving → d.find? id = c.find? id
  closed : r.Closed c → r.Closed d

namespace Grows

variable {r : ToolRegistry σ} {c d d' : ToolCache} {id : String} {t : Tool}

lemma refl (c : ToolCache) : Grows r c c where
  marks := rfl
  kept h := h
  ofMarked _ := rfl
  closed h := h

lemma trans (h : Grows r c d) (h' : Grows r d d') : Grows r c d' where
  marks := h'.marks.trans h.marks
  kept ht := h'.kept (h.kept ht)
  ofMarked hm := (h'.ofMarked (h.marks ▸ hm)).trans (h.ofMarked hm)
  closed hc := h'.closed (h.closed hc)

lemma contains (h : Grows r c d) (hc : c.contains id = true) : d.contains id = true := by
  obtain ⟨t, ht⟩ := ToolCache.contains_iff.mp hc
  exact ToolCache.contains_iff.mpr ⟨t, h.kept ht⟩

lemma next (c : ToolCache) (k : Nat) : Grows r c { c with next := k } where
  marks := rfl
  kept h := h
  ofMarked _ := rfl
  closed h := h

lemma finish (hm : id ∉ c.resolving) (h : Grows r (c.begin id) d) : Grows r c (d.finish id) where
  marks := ToolCache.finish_resolving hm h.marks
  kept ht := h.kept ht
  ofMarked hx := h.ofMarked (List.mem_cons_of_mem _ hx)
  closed hc := h.closed hc

lemma finish_insert (hm : id ∉ c.resolving) (hn : c.find? id = none) (h : Grows r (c.begin id) d)
    (hd : ∀ x, r.DependsOn id x → d.contains x = true) :
    Grows r c ((d.finish id).insert id t) where
  marks := ToolCache.finish_resolving hm h.marks
  kept {x u} hx := by
    have hne : x ≠ id := by
      rintro rfl
      rw [hn] at hx
      cases hx
    rw [ToolCache.find?_insert_of_ne hne]
    exact h.kept hx
  ofMarked {x} hx := by
    have hne : x ≠ id := fun he => hm (he ▸ hx)
    rw [ToolCache.find?_insert_of_ne hne]
    exact h.ofMarked (List.mem_cons_of_mem _ hx)
  closed hc := by
    intro a b hab ha
    have hb : d.contains b = true := by
      by_cases hne : a = id
      · exact hd b (hne ▸ hab)
      · refine h.closed hc hab ?_
        rwa [ToolCache.contains, ToolCache.find?_insert_of_ne hne] at ha
    by_cases hne : b = id
    · subst hne
      simp [ToolCache.contains]
    · rwa [ToolCache.contains, ToolCache.find?_insert_of_ne hne]

end Grows

end HostProbe.ToolRegistry
