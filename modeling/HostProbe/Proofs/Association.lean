import Mathlib.Data.List.Nodup
import Mathlib.Tactic.Common

/-! Keys with their values in a list, of which a reader takes the first that has the key. -/

namespace HostProbe.Association

variable {α β : Type} [DecidableEq α] {m : List (α × β)} {key x : α} {value : β}

lemma lookup_cons_of_ne (h : x ≠ key) : ((key, value) :: m).lookup x = m.lookup x := by
  rw [List.lookup_cons, beq_false_of_ne h]

lemma lookup_filter_self : (m.filter (·.1 ≠ key)).lookup key = none := by
  rw [List.lookup_eq_none_iff]
  intro p hp
  exact bne_iff_ne.mpr (of_decide_eq_true (List.mem_filter.mp hp).2).symm

lemma lookup_filter_of_ne (h : x ≠ key) : (m.filter (·.1 ≠ key)).lookup x = m.lookup x := by
  induction m with
  | nil => rfl
  | cons p rest ih =>
    obtain ⟨k, v⟩ := p
    by_cases hk : k = key
    · rw [List.filter_cons_of_neg (by simpa using hk), ih, lookup_cons_of_ne (hk ▸ h)]
    · rw [List.filter_cons_of_pos (by simpa using hk), List.lookup_cons, List.lookup_cons, ih]

lemma mem_iff_lookup (h : (m.map (·.1)).Nodup) : (key, value) ∈ m ↔ m.lookup key = some value := by
  induction m with
  | nil => simp
  | cons p rest ih =>
    obtain ⟨k, v⟩ := p
    obtain ⟨hk, hrest⟩ := List.nodup_cons.mp h
    rw [List.mem_cons]
    by_cases hkey : key = k
    · subst hkey
      have hnot : (key, value) ∉ rest := fun hv => hk (List.mem_map_of_mem (f := (·.1)) hv)
      rw [or_iff_left hnot, List.lookup_cons_self, Option.some.injEq, Prod.mk.injEq]
      exact ⟨fun he => he.2.symm, fun he => ⟨rfl, he.symm⟩⟩
    · have hne : (key, value) ≠ (k, v) := fun he => hkey (congrArg Prod.fst he)
      rw [or_iff_right hne, lookup_cons_of_ne hkey]
      exact ih hrest

end HostProbe.Association
