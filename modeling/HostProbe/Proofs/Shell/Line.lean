import HostProbe.Proofs.Shell.Quote
import HostProbe.Proofs.Text.Pieces

/-! Command lines of fixed words and quoted arguments. -/

namespace HostProbe.Shell

open HostProbe.Text

variable {value arg line : String} {values args words texts : List String}

def holdsNul (value : String) : Bool := '\x00' ∈ value.toList

def refusal (value : String) : Fault :=
  .invalidArgument ("`" ++ bare value ++ "` cannot be passed to a shell")

lemma quote_of_holdsNul (h : holdsNul value) : quote value = .error (refusal value) := by
  rw [quote, quote?_eq_none_iff.mpr (by simpa [holdsNul] using h)]
  rfl

structure Writes (text word : String) : Prop where
  spells : Spells text.toList word.toList
  noNul : ¬ holdsNul text

lemma exists_quote (h : ¬ holdsNul value) : ∃ arg, quote value = .ok arg ∧ Writes arg value := by
  cases hquote : quote? value.toList with
  | none => exact absurd (by simpa [holdsNul] using quote?_eq_none_iff.mp hquote) h
  | some q =>
    refine ⟨String.ofList q, by rw [quote, hquote], ?_, ?_⟩
    · simpa using spells_quote hquote
    · simpa [holdsNul] using nul_not_mem_quote hquote

lemma noNul_of_quote (h : quote value = .ok arg) : ¬ holdsNul value := by
  intro hnul
  rw [quote_of_holdsNul hnul] at h
  cases h

lemma writes_of_quote (h : quote value = .ok arg) : Writes arg value := by
  obtain ⟨arg', harg, hwrites⟩ := exists_quote (noNul_of_quote h)
  cases harg.symm.trans h
  exact hwrites

lemma mapM_quote_of_find? (h : values.find? holdsNul = some value) :
    values.mapM quote = .error (refusal value) := by
  induction values with
  | nil => cases h
  | cons v values ih =>
    rw [List.mapM_cons]
    by_cases hv : holdsNul v
    · rw [List.find?_cons_of_pos hv] at h
      cases h
      rw [quote_of_holdsNul hv]
      rfl
    · rw [List.find?_cons_of_neg hv] at h
      obtain ⟨arg, harg, -⟩ := exists_quote hv
      rw [harg, ih h]
      rfl

lemma exists_mapM_quote (h : ∀ v ∈ values, ¬ holdsNul v) :
    ∃ args, values.mapM quote = .ok args ∧ List.Forall₂ Writes args values := by
  induction values with
  | nil => exact ⟨[], rfl, .nil⟩
  | cons v values ih =>
    obtain ⟨hv, hvalues⟩ := List.forall_mem_cons.mp h
    obtain ⟨arg, harg, hwrites⟩ := exists_quote hv
    obtain ⟨args, hargs, hrest⟩ := ih hvalues
    refine ⟨arg :: args, ?_, .cons hwrites hrest⟩
    rw [List.mapM_cons, harg, hargs]
    rfl

def isFixedWord (word : String) : Bool :=
  !word.toList.isEmpty && word.toList.all fun c => isOrdinary c && c != '\x00'

lemma writes_fixed {word : String} (h : isFixedWord word) : Writes word word := by
  obtain ⟨hne, hall⟩ := Bool.and_eq_true_iff.mp h
  simp only [List.all_eq_true, Bool.and_eq_true, bne_iff_ne, ne_eq] at hall
  refine ⟨spells_ordinary (by simpa using hne) fun c hc => (hall c hc).1, fun hnul => ?_⟩
  exact (hall '\x00' (by simpa [holdsNul] using hnul)).2 rfl

lemma words?_intercalate (h : List.Forall₂ Writes texts words) :
    words? (String.intercalate " " texts) = some words := by
  have hspells : List.Forall₂ Spells (texts.map String.toList) (words.map String.toList) := by
    rw [List.forall₂_map_left_iff, List.forall₂_map_right_iff]
    exact h.imp fun _ _ hwrites => hwrites.spells
  rw [words?, String.toList_intercalate]
  have hsplit := split_of_spells hspells
  simp [hsplit, Function.comp_def]

lemma noNul_intercalate (h : List.Forall₂ Writes texts words) :
    ¬ holdsNul (String.intercalate " " texts) := by
  have htexts : ∀ text ∈ texts, ¬ holdsNul text := by
    induction h with
    | nil => simp
    | cons hhead _ ih => exact List.forall_mem_cons.mpr ⟨hhead.noNul, ih⟩
  intro hnul
  have hmem : '\x00' ∈ [' '].intercalate (texts.map String.toList) := by simpa [holdsNul] using hnul
  obtain hspace | ⟨text, htext, hchar⟩ := mem_intercalate hmem
  · cases hspace
  · obtain ⟨t, ht, rfl⟩ := List.mem_map.mp htext
    exact htexts t ht (by simpa [holdsNul] using hchar)

end HostProbe.Shell
