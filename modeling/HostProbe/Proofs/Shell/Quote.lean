import HostProbe.Shell.Quote
import HostProbe.Shell.Words
import Mathlib.Data.List.Forall2
import Mathlib.Tactic.Common

/-! A quoted argument is read back as the one word that was quoted. The reader is in the middle of a word
when it comes to a chunk, and again after it, with the characters of the chunk added to the word; so the
chunks are read one after another, whichever way each is quoted. -/

namespace HostProbe.Shell

variable {c : Char} {s q word rest front : List Char} {styles final : Styles}

section Chunks

structure Styles.Fits (styles : Styles) (s : List Char) : Prop where
  bare : styles.bare → ∀ c ∈ s, isBareChar c
  single : styles.single → ∀ c ∈ s, c ≠ '\x27'

lemma Styles.narrow_bare (h : (styles.narrow c).bare) : styles.bare ∧ isBareChar c :=
  Bool.and_eq_true_iff.mp h

lemma Styles.narrow_single (h : (styles.narrow c).single) : styles.single ∧ c ≠ '\x27' := by
  obtain ⟨hsingle, hc⟩ := Bool.and_eq_true_iff.mp h
  refine ⟨hsingle, ?_⟩
  rintro rfl
  cases hc

lemma fits_first (c : Char) : (Styles.first c).Fits [c] := by
  rw [Styles.first]
  split
  · next hcaret => exact ⟨nofun, by simp [hcaret]⟩
  · refine ⟨fun hbare => ?_, fun hsingle => ?_⟩
    · simpa using (Styles.narrow_bare hbare).2
    · simpa using (Styles.narrow_single hsingle).2

lemma chunk_append (styles : Styles) (s : List Char) :
    (chunk styles s).1 ++ (chunk styles s).2.2 = s := by
  induction s generalizing styles with
  | nil => rfl
  | cons c s ih =>
    by_cases hopen : (styles.narrow c).isOpen
    · simp [chunk, hopen, ih]
    · simp [chunk, hopen]

lemma fits_chunk (h : styles.Fits front) (s : List Char) :
    (chunk styles s).2.1.Fits (front ++ (chunk styles s).1) := by
  induction s generalizing styles front with
  | nil => simpa [chunk] using h
  | cons c s ih =>
    by_cases hopen : (styles.narrow c).isOpen
    · have hnarrow : (styles.narrow c).Fits (front ++ [c]) := by
        refine ⟨fun hbare => ?_, fun hsingle => ?_⟩
        · obtain ⟨hstyles, hc⟩ := Styles.narrow_bare hbare
          simpa [or_imp, forall_and, hc] using h.bare hstyles
        · obtain ⟨hstyles, hc⟩ := Styles.narrow_single hsingle
          simpa [or_imp, forall_and, hc] using h.single hstyles
      simpa [chunk, hopen] using ih hnarrow
    · simpa [chunk, hopen] using h

lemma fits_firstChunk (c : Char) (s : List Char) :
    (chunk (Styles.first c) s).2.1.Fits (c :: (chunk (Styles.first c) s).1) :=
  fits_chunk (fits_first c) s

end Chunks

section Reading

def isOrdinary (c : Char) : Bool :=
  !isWordGap c && c != '#' && c != '"' && c != '\x27' && c != '\\'

lemma isOrdinary_iff : isOrdinary c ↔
    isWordGap c = false ∧ c ≠ '#' ∧ c ≠ '"' ∧ c ≠ '\x27' ∧ c ≠ '\\' := by
  simp [isOrdinary, and_assoc]

lemma isOrdinary_of_isBareChar (h : isBareChar c) : isOrdinary c := by
  refine isOrdinary_iff.mpr ⟨?_, ?_, ?_, ?_, ?_⟩
  · rw [Bool.eq_false_iff]
    intro hgap
    simp only [isWordGap, Bool.or_eq_true, beq_iff_eq] at hgap
    rcases hgap with (rfl | rfl) | rfl <;> cases h
  all_goals rintro rfl; cases h

lemma wordsFrom_ordinary (h : ∀ c ∈ s, isOrdinary c) (word rest : List Char) :
    wordsFrom .plain word (s ++ rest) = wordsFrom .plain (word ++ s) rest := by
  induction s generalizing word with
  | nil => simp
  | cons c s ih =>
    obtain ⟨hc, hs⟩ := List.forall_mem_cons.mp h
    obtain ⟨hgap, -, hdouble, hsingle, hescape⟩ := isOrdinary_iff.mp hc
    rw [List.cons_append, wordsFrom, if_neg (by simp [hgap]), if_neg hdouble, if_neg hsingle,
      if_neg hescape, ih hs, List.append_assoc, List.singleton_append]

lemma wordsFrom_single (h : ∀ c ∈ s, c ≠ '\x27') (word rest : List Char) :
    wordsFrom .single word (s ++ '\x27' :: rest) = wordsFrom .plain (word ++ s) rest := by
  induction s generalizing word with
  | nil => simp [wordsFrom]
  | cons c s ih =>
    obtain ⟨hc, hs⟩ := List.forall_mem_cons.mp h
    rw [List.cons_append, wordsFrom, if_neg hc, ih hs, List.append_assoc, List.singleton_append]

lemma wordsFrom_double (s word rest : List Char) :
    wordsFrom .double word (s.flatMap escapeDouble ++ '"' :: rest) =
      wordsFrom .plain (word ++ s) rest := by
  induction s generalizing word with
  | nil => simp [wordsFrom]
  | cons c s ih =>
    have hstep : ∀ tail, wordsFrom .double word (escapeDouble c ++ tail) =
        wordsFrom .double (word ++ [c]) tail := by
      intro tail
      by_cases hc : c = '$' ∨ c = '\x60' ∨ c = '"' ∨ c = '\\'
      · rw [escapeDouble, if_pos hc]
        rcases hc with rfl | rfl | rfl | rfl <;> simp [wordsFrom, isDoubleEscapable]
      · rw [escapeDouble, if_neg hc]
        simp only [not_or] at hc
        simp [wordsFrom, hc]
    rw [List.flatMap_cons, List.append_assoc, hstep, ih, List.append_assoc, List.singleton_append]

lemma wordsFrom_writeChunk (h : styles.Fits s) (word rest : List Char) :
    wordsFrom .plain word (writeChunk styles s ++ rest) = wordsFrom .plain (word ++ s) rest := by
  rw [writeChunk]
  split
  · next hbare =>
    exact wordsFrom_ordinary (fun c hc => isOrdinary_of_isBareChar (h.bare hbare c hc)) word rest
  · split
    · next hsingle =>
      simpa [wordsFrom, isWordGap] using wordsFrom_single (h.single hsingle) word rest
    · simpa [wordsFrom, isWordGap] using wordsFrom_double s word rest

lemma wordsFrom_writeChunks (s word rest : List Char) :
    wordsFrom .plain word (writeChunks s ++ rest) = wordsFrom .plain (word ++ s) rest := by
  induction s using writeChunks.induct generalizing word with
  | case1 => simp [writeChunks]
  | case2 c s piece ih =>
    rw [writeChunks, List.append_assoc, wordsFrom_writeChunk (fits_firstChunk c s), ih,
      List.append_assoc, List.cons_append, chunk_append]

end Reading

section Words

def opensWord (c : Char) : Bool := !isWordGap c && c != '#'

structure Spells (text word : List Char) : Prop where
  reads : ∀ before rest,
    wordsFrom .plain before (text ++ rest) = wordsFrom .plain (before ++ word) rest
  opens : ∃ c s, text = c :: s ∧ opensWord c

lemma wordsFrom_between (h : opensWord c) (word s : List Char) :
    wordsFrom .between word (c :: s) = wordsFrom .plain [] (c :: s) := by
  obtain ⟨hgap, hcomment⟩ : isWordGap c = false ∧ c ≠ '#' := by simpa [opensWord] using h
  rw [wordsFrom, wordsFrom]
  simp [hgap, hcomment]

lemma Spells.between {text : List Char} (h : Spells text word) (rest : List Char) :
    wordsFrom .between [] (text ++ rest) = wordsFrom .plain word rest := by
  obtain ⟨c, s, rfl, hopens⟩ := h.opens
  rw [List.cons_append, wordsFrom_between hopens, ← List.cons_append, h.reads, List.nil_append]

lemma opensWord_of_isOrdinary (h : isOrdinary c) : opensWord c := by
  obtain ⟨hgap, hcomment, -⟩ := isOrdinary_iff.mp h
  simp [opensWord, hgap, hcomment]

lemma spells_ordinary (hs : s ≠ []) (h : ∀ c ∈ s, isOrdinary c) : Spells s s where
  reads before rest := wordsFrom_ordinary h before rest
  opens := by
    cases s with
    | nil => exact absurd rfl hs
    | cons c s => exact ⟨c, s, rfl, opensWord_of_isOrdinary (h c List.mem_cons_self)⟩

lemma opens_writeChunk (h : styles.Fits (c :: s)) :
    ∃ d t, writeChunk styles (c :: s) = d :: t ∧ opensWord d := by
  rw [writeChunk]
  split
  · next hbare =>
    have hc := isOrdinary_of_isBareChar (h.bare hbare c List.mem_cons_self)
    exact ⟨c, s, rfl, opensWord_of_isOrdinary hc⟩
  · split
    · exact ⟨_, _, rfl, rfl⟩
    · exact ⟨_, _, rfl, rfl⟩

lemma spells_quote (h : quote? s = some q) : Spells q s := by
  rw [quote?] at h
  split at h
  · next hempty =>
    cases h
    cases hempty
    exact ⟨fun before rest => by simp [wordsFrom, isWordGap], _, _, rfl, rfl⟩
  · next hne =>
    split at h
    · cases h
    · cases h
      refine ⟨fun before rest => wordsFrom_writeChunks s before rest, ?_⟩
      cases s with
      | nil => exact absurd rfl hne
      | cons c s =>
        obtain ⟨d, t, hchunk, hopens⟩ := opens_writeChunk (fits_firstChunk c s)
        exact ⟨d, _, by rw [writeChunks, hchunk, List.cons_append], hopens⟩

theorem split_of_spells {texts words : List (List Char)} (h : List.Forall₂ Spells texts words) :
    split? (List.intercalate [' '] texts) = some words := by
  induction h with
  | nil => rfl
  | cons hhead htail ih =>
    rename_i text word texts words
    cases htail with
    | nil => simpa [split?, wordsFrom] using hhead.between []
    | cons hnext htail' =>
      rw [split?] at ih ⊢
      rw [List.intercalate_cons_cons, List.append_assoc, hhead.between]
      simp [wordsFrom, isWordGap, ih]

end Words

section Nul

lemma quote?_eq_none_iff : quote? s = none ↔ '\x00' ∈ s := by
  rw [quote?]
  split
  · next hempty => simp [hempty]
  · split <;> simp [*]

lemma nul_mem_writeChunk (h : '\x00' ∈ writeChunk styles s) : '\x00' ∈ s := by
  rw [writeChunk] at h
  split at h
  · exact h
  · split at h
    · simpa using h
    · obtain ⟨c, hc, hmem⟩ : ∃ c ∈ s, '\x00' ∈ escapeDouble c := by simpa using h
      rw [escapeDouble] at hmem
      split at hmem <;> simp at hmem <;> exact hmem ▸ hc

lemma nul_mem_writeChunks (h : '\x00' ∈ writeChunks s) : '\x00' ∈ s := by
  induction s using writeChunks.induct with
  | case1 => simp [writeChunks] at h
  | case2 c s piece ih =>
    rw [← chunk_append (Styles.first c) s, ← List.cons_append]
    rw [writeChunks] at h
    rcases List.mem_append.mp h with hchunk | hrest
    · exact List.mem_append_left _ (nul_mem_writeChunk hchunk)
    · exact List.mem_append_right _ (ih hrest)

lemma nul_not_mem_quote (h : quote? s = some q) : '\x00' ∉ q := by
  rw [quote?] at h
  split at h
  · cases h
    decide
  · split at h
    · cases h
    · next hnul =>
      cases h
      exact fun hmem => hnul (nul_mem_writeChunks hmem)

end Nul

end HostProbe.Shell
