import HostProbe.Package.Report
import HostProbe.Proofs.Text.Pieces
import Mathlib.Data.List.TakeWhile

/-! The names that are found in the output of a package manager. A phrase lies between two ends of lines and
begins and ends with a character that is no blank; so a text can be searched line by line, and the blanks
at its ends do not matter. -/

namespace HostProbe

open Text

variable {s a b name rest : List Char} {c : Char}

namespace Package

variable {ps : List Phrase} {p : Phrase}

section Matching

structure Fills (name : List Char) : Prop where
  nonempty : name ≠ []
  chars : ∀ c ∈ name, isNameChar c = true

lemma Phrase.match?_eq_some_iff : p.match? s = some (name, rest) ↔
    Fills name ∧ (∀ c ∈ (p.tail.toList ++ rest).head?, isNameChar c = false) ∧
      s = p.lead.toList ++ (name ++ (p.tail.toList ++ rest)) := by
  simp only [Phrase.match?, Option.bind_eq_bind, Option.bind_eq_some_iff]
  constructor
  · rintro ⟨after, hlead, h⟩
    split at h
    · cases h
    · next hname =>
      obtain ⟨r, htail, h⟩ := Option.bind_eq_some_iff.mp h
      cases h
      have hrest : after.dropWhile isNameChar = p.tail.toList ++ rest := dropStart?_eq_some_iff.mp htail
      refine ⟨⟨by simpa using hname, fun c => List.mem_takeWhile_imp⟩, ?_, ?_⟩
      · intro c hc
        rw [← hrest] at hc
        simpa [Option.mem_def.mp hc] using after.head?_dropWhile_not isNameChar
      · rw [← hrest, List.takeWhile_append_dropWhile]
        exact dropStart?_eq_some_iff.mp hlead
  · rintro ⟨hfills, hhead, rfl⟩
    refine ⟨_, dropStart?_eq_some_iff.mpr rfl, ?_⟩
    rw [takeWhile_append_of_head hfills.chars hhead, dropWhile_append_of_head hfills.chars hhead]
    simp [hfills.nonempty, dropStart?_eq_some_iff.mpr rfl]

end Matching

section Borders

lemma isBlank_of_isNameChar (h : isNameChar c) : isBlank c = false := by
  simp only [isNameChar, Bool.or_eq_true, isAlphanum_iff, beq_iff_eq] at h
  rcases h with ((((h | rfl) | rfl) | rfl) | rfl) | rfl
  · exact isBlank_of_range (by omega) (by omega)
  all_goals rfl

structure Phrase.Tight (p : Phrase) : Prop where
  begins : ∃ d s, p.lead.toList = d :: s ∧ isBlank d = false
  ends : ∀ d ∈ p.tail.toList.getLast?, isBlank d = false
  oneLine : '\n' ∉ p.lead.toList ++ p.tail.toList

lemma tight_of_mem_phrases {kind : PackageKind} (h : p ∈ phrases kind) : p.Tight := by
  have hall : ∀ q ∈ phrases kind, q.lead.toList.head?.any (!isBlank ·) ∧
      q.tail.toList.getLast?.all (!isBlank ·) ∧ '\n' ∉ q.lead.toList ++ q.tail.toList := by
    cases kind <;> decide
  obtain ⟨hbegins, hends, honeLine⟩ := hall p h
  refine ⟨?_, ?_, honeLine⟩
  · cases hlead : p.lead.toList with
    | nil => simp [hlead] at hbegins
    | cons d s => exact ⟨d, s, rfl, by simpa [hlead] using hbegins⟩
  · intro d hd
    simpa [Option.mem_def.mp hd] using hends

lemma Phrase.Tight.last (h : p.Tight) (hfills : Fills name) :
    ∀ d ∈ (p.lead.toList ++ (name ++ p.tail.toList)).getLast?, isBlank d = false := by
  intro d hd
  rw [List.getLast?_append, List.getLast?_append, List.getLast?_eq_some_getLast hfills.nonempty] at hd
  cases htail : p.tail.toList.getLast? with
  | some e =>
    rw [htail] at hd
    cases hd
    exact h.ends d htail
  | none =>
    rw [htail] at hd
    cases hd
    exact isBlank_of_isNameChar (hfills.chars _ (List.getLast_mem hfills.nonempty))

structure Bounds (p : Phrase) (b : List Char) : Prop where
  head : ∀ d ∈ b.head?, isNameChar d = false
  across : ∀ part name, Fills name → part <+: b → part <:+ p.lead.toList ++ (name ++ p.tail.toList) →
    part = []

lemma match?_append (h : Bounds p b) (a : List Char) :
    p.match? (a ++ b) = (p.match? a).map fun m => (m.1, m.2 ++ b) := by
  have hhead (r : List Char) : (∀ d ∈ (p.tail.toList ++ (r ++ b)).head?, isNameChar d = false) ↔
      ∀ d ∈ (p.tail.toList ++ r).head?, isNameChar d = false := by
    rw [← List.append_assoc, List.head?_append]
    cases (p.tail.toList ++ r).head? with
    | none => simpa using h.head
    | some d => simp
  ext ⟨name, rest⟩
  simp only [Option.mem_def, Option.map_eq_some_iff, Prod.mk.injEq, Prod.exists,
    Phrase.match?_eq_some_iff]
  constructor
  · rintro ⟨hfills, hend, htext⟩
    suffices ∃ r, a = p.lead.toList ++ (name ++ (p.tail.toList ++ r)) ∧ r ++ b = rest by
      obtain ⟨r, ha, rfl⟩ := this
      exact ⟨name, r, ⟨hfills, (hhead r).mp hend, ha⟩, rfl, rfl⟩
    -- The phrase ends before the border, or a part of it stands after the border.
    have hsplit : a ++ b = p.lead.toList ++ (name ++ p.tail.toList) ++ rest := by simpa using htext
    obtain ⟨part, hphrase, rfl⟩ | ⟨r, rfl, rfl⟩ := List.append_eq_append_iff.mp hsplit
    · have hnone := h.across part name hfills (List.prefix_append _ _) ⟨a, hphrase.symm⟩
      subst hnone
      exact ⟨[], by simpa using hphrase.symm, rfl⟩
    · exact ⟨r, by simp, rfl⟩
  · rintro ⟨name, r, ⟨hfills, hend, rfl⟩, rfl, rfl⟩
    exact ⟨hfills, (hhead r).mpr hend, by simp⟩

lemma bounds_newline (h : p.Tight) (b : List Char) : Bounds p ('\n' :: b) where
  head d hd := by
    cases hd
    rfl
  across part name hfills hpart hphrase := by
    cases part with
    | nil => rfl
    | cons d part =>
      obtain ⟨rfl, -⟩ := List.cons_prefix_cons.mp hpart
      have hmem := hphrase.subset List.mem_cons_self
      simp only [List.mem_append] at hmem
      rcases hmem with hlead | hname | htail
      · exact absurd (List.mem_append_left _ hlead) h.oneLine
      · cases hfills.chars _ hname
      · exact absurd (List.mem_append_right _ htail) h.oneLine

lemma bounds_blanks (h : p.Tight) (hb : ∀ d ∈ b, isBlank d = true) : Bounds p b where
  head d hd := by
    by_contra hname
    have hblank := hb d (List.mem_of_mem_head? hd)
    rw [isBlank_of_isNameChar (by simpa using hname)] at hblank
    cases hblank
  across part name hfills hpart hphrase := by
    by_contra hne
    obtain ⟨before, hbefore⟩ := hphrase
    have hlast : part.getLast hne ∈ (p.lead.toList ++ (name ++ p.tail.toList)).getLast? := by
      rw [← hbefore, List.getLast?_append, List.getLast?_eq_some_getLast hne]
      rfl
    have hblank := hb _ (hpart.subset (List.getLast_mem hne))
    rw [h.last hfills _ hlast] at hblank
    cases hblank

end Borders

section Search

lemma named_nil : named ps [] = [] := by rw [named]

lemma named_of_match (h : (ps.findSome? fun p => p.match? s) = some (name, rest)) :
    named ps s = name :: named ps rest := by
  cases s with
  | nil =>
    obtain ⟨p, -, hp⟩ := List.exists_of_findSome?_eq_some h
    exact absurd (Phrase.length_of_match? hp) (Nat.not_lt_zero _)
  | cons c s =>
    rw [named]
    split
    · next h' =>
      cases h'.symm.trans h
      rfl
    · next h' => cases h'.symm.trans h

lemma named_cons_of_none (h : (ps.findSome? fun p => p.match? (c :: s)) = none) :
    named ps (c :: s) = named ps s := by
  rw [named]
  split
  · next h' => cases h'.symm.trans h
  · rfl

lemma findSome?_match?_append (h : ∀ p ∈ ps, Bounds p b) (a : List Char) :
    (ps.findSome? fun p => p.match? (a ++ b)) =
      (ps.findSome? fun p => p.match? a).map fun m => (m.1, m.2 ++ b) := by
  induction ps with
  | nil => rfl
  | cons p ps ih =>
    obtain ⟨hp, hps⟩ := List.forall_mem_cons.mp h
    rw [List.findSome?_cons, List.findSome?_cons, match?_append hp]
    cases p.match? a with
    | some m => rfl
    | none => exact ih hps

lemma named_append (h : ∀ p ∈ ps, Bounds p b) (a : List Char) :
    named ps (a ++ b) = named ps a ++ named ps b := by
  induction a using named.induct ps with
  | case1 => rw [named_nil, List.nil_append, List.nil_append]
  | case2 c a name rest hfound ih =>
    have hborder : (ps.findSome? fun p => p.match? (c :: a ++ b)) = some (name, rest ++ b) := by
      rw [findSome?_match?_append h, hfound]
      rfl
    rw [named_of_match hborder, named_of_match hfound, ih, List.cons_append]
  | case3 c a hnone ih =>
    have hborder : (ps.findSome? fun p => p.match? (c :: (a ++ b))) = none := by
      rw [← List.cons_append, findSome?_match?_append h, hnone]
      rfl
    rw [List.cons_append, named_cons_of_none hborder, named_cons_of_none hnone, ih]

lemma match?_of_no_start (h : ¬ p.lead.toList <+: s) : p.match? s = none := by
  refine Option.eq_none_iff_forall_ne_some.mpr ?_
  rintro ⟨name, rest⟩ hmatch
  obtain ⟨-, -, rfl⟩ := Phrase.match?_eq_some_iff.mp hmatch
  exact h (List.prefix_append _ _)

lemma named_of_no_start (h : ∀ p ∈ ps, ¬ p.lead.toList <+: c :: s) :
    named ps (c :: s) = named ps s :=
  named_cons_of_none (List.findSome?_eq_none_iff.mpr fun p hp => match?_of_no_start (h p hp))

lemma named_of_lacks
    (h : ∀ p ∈ ps, ¬ p.lead.toList <:+: s ∨ ¬ p.tail.toList <:+: s) : named ps s = [] := by
  induction s with
  | nil => exact named_nil
  | cons c s ih =>
    have hnone : (ps.findSome? fun p => p.match? (c :: s)) = none := by
      refine List.findSome?_eq_none_iff.mpr fun p hp => Option.eq_none_iff_forall_ne_some.mpr ?_
      rintro ⟨name, rest⟩ hmatch
      obtain ⟨-, -, htext⟩ := Phrase.match?_eq_some_iff.mp hmatch
      have hlead : p.lead.toList <:+: c :: s := ⟨[], _, by rw [htext]; rfl⟩
      have htail : p.tail.toList <:+: c :: s := ⟨p.lead.toList ++ name, rest, by simp [htext]⟩
      exact (h p hp).elim (· hlead) (· htail)
    have hinfix : s <:+: c :: s := (List.suffix_cons c s).isInfix
    rw [named_cons_of_none hnone]
    exact ih fun p hp => (h p hp).imp (mt (·.trans hinfix)) (mt (·.trans hinfix))

variable (hps : ∀ p ∈ ps, p.Tight)

include hps

lemma named_blank_cons (hc : isBlank c = true) (s : List Char) : named ps (c :: s) = named ps s := by
  refine named_of_no_start fun p hp hprefix => ?_
  obtain ⟨d, t, hlead, hd⟩ := (hps p hp).begins
  rw [hlead, List.cons_prefix_cons] at hprefix
  rw [← hprefix.1, hd] at hc
  cases hc

lemma named_blanks_append (ha : ∀ c ∈ a, isBlank c = true) (s : List Char) :
    named ps (a ++ s) = named ps s := by
  induction a with
  | nil => rfl
  | cons c a ih =>
    obtain ⟨hc, hrest⟩ := List.forall_mem_cons.mp ha
    rw [List.cons_append, named_blank_cons hps hc, ih hrest]

lemma named_blanks (ha : ∀ c ∈ a, isBlank c = true) : named ps a = [] := by
  simpa [named_nil] using named_blanks_append hps ha []

lemma named_trim (s : List Char) : named ps (trim s) = named ps s := by
  have hstart : named ps (s.dropWhile isBlank) = named ps s := by
    conv_rhs => rw [← List.takeWhile_append_dropWhile (p := isBlank) (l := s)]
    exact (named_blanks_append hps (fun _ => List.mem_takeWhile_imp) _).symm
  rw [← hstart, trim, trimBy]
  generalize s.dropWhile isBlank = t
  obtain ⟨blanks, hend, hblanks⟩ := exists_eq_dropRightWhile_append isBlank t
  conv_rhs => rw [hend]
  rw [named_append fun p hp => bounds_blanks (hps p hp) hblanks, named_blanks hps hblanks,
    List.append_nil]

lemma named_newline (a b : List Char) : named ps (a ++ '\n' :: b) = named ps a ++ named ps b := by
  rw [named_append fun p hp => bounds_newline (hps p hp) b, named_blank_cons hps (by decide)]

lemma named_intercalate (parts : List (List Char)) :
    named ps (['\n'].intercalate parts) = parts.flatMap (named ps) := by
  induction parts with
  | nil => exact named_nil
  | cons part parts ih =>
    cases parts with
    | nil => simp
    | cons next parts =>
      rw [List.intercalate_cons_cons, List.append_assoc, List.singleton_append, named_newline hps, ih]
      rfl

lemma named_splitAt (s : List Char) : named ps s = (splitAt '\n' s).flatMap (named ps) := by
  rw [← named_intercalate hps, splitAt_eq_splitOn, List.intercalate_splitOn]

end Search

end Package

end HostProbe
