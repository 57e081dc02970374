import HostProbe.Text.Blank
import HostProbe.Decimal.Integer
import Mathlib.Data.List.DropRight
import Mathlib.Tactic.Common

/-! Taking texts apart that were put together from pieces: pieces with a mark between them, a text that
is cut at a mark, a text without blanks, and the digits of a number. -/

namespace HostProbe

namespace Text

variable {mark : Char} {front rest s pre sep part l p a b : List Char}
  {parts : List (List Char)} {q : Char → Bool}

lemma dropStart?_eq_some_iff : dropStart? pre s = some rest ↔ s = pre ++ rest := by
  induction pre generalizing s with
  | nil => simp [dropStart?]
  | cons p pre ih =>
    cases s with
    | nil => simp [dropStart?]
    | cons c s =>
      by_cases hc : p = c
      · simp [dropStart?, hc, ih]
      · simp [dropStart?, hc, Ne.symm hc]

lemma occursIn_iff : occursIn pre s ↔ pre <:+: s := by
  induction s with
  | nil => simp [occursIn]
  | cons c s ih => rw [occursIn, Bool.or_eq_true, ih, List.isPrefixOf_iff_prefix, List.infix_cons_iff]

lemma splitBy_eq_splitOnP (p : Char → Bool) (s : List Char) : splitBy p s = s.splitOnP p := by
  induction s with
  | nil => rfl
  | cons c cs ih =>
    rw [splitBy, List.splitOnP_cons_eq_if_modifyHead, ih]
    split
    · rfl
    · obtain ⟨w, ws, hw⟩ := List.exists_cons_of_ne_nil (List.splitOnP_ne_nil (p := p) cs)
      rw [hw]
      rfl

lemma splitAt_eq_splitOn (mark : Char) (s : List Char) : splitAt mark s = s.splitOn mark :=
  splitBy_eq_splitOnP _ s

lemma splitAt_intercalate (h : ∀ part ∈ parts, mark ∉ part) (hne : parts ≠ []) :
    splitAt mark ([mark].intercalate parts) = parts := by
  rw [splitAt_eq_splitOn, List.splitOn_intercalate mark h hne]

lemma splitAt_append_cons (mark : Char) (front back : List Char) :
    splitAt mark (front ++ mark :: back) = splitAt mark front ++ splitAt mark back := by
  rw [splitAt_eq_splitOn, splitAt_eq_splitOn, splitAt_eq_splitOn]
  exact List.splitOnP_append_cons front back (beq_self_eq_true mark)

lemma splitAt_eq_singleton (h : mark ∉ s) : splitAt mark s = [s] := by
  have hparts : ∀ part ∈ [s], mark ∉ part := by simpa using h
  simpa using splitAt_intercalate hparts (List.cons_ne_nil _ _)

lemma mem_intercalate {c : Char} (h : c ∈ [mark].intercalate parts) :
    c = mark ∨ ∃ part ∈ parts, c ∈ part := by
  induction parts with
  | nil => cases h
  | cons part parts ih =>
    cases parts with
    | nil => exact .inr ⟨part, List.mem_cons_self, by simpa using h⟩
    | cons next parts =>
      rw [List.intercalate_cons_cons, List.append_assoc, List.mem_append] at h
      rcases h with h | h
      · exact .inr ⟨part, List.mem_cons_self, h⟩
      · rcases List.mem_append.mp h with h | h
        · exact .inl (List.mem_singleton.mp h)
        · refine (ih h).imp_right ?_
          rintro ⟨p, hp, hc⟩
          exact ⟨p, List.mem_cons_of_mem _ hp, hc⟩

lemma infix_intercalate (h : part ∈ parts) : part <:+: sep.intercalate parts := by
  induction parts with
  | nil => cases h
  | cons first parts ih =>
    cases parts with
    | nil => simp_all
    | cons next parts =>
      rw [List.intercalate_cons_cons, List.append_assoc]
      rcases List.mem_cons.mp h with rfl | h
      · exact (List.prefix_append part _).isInfix
      · exact ((ih h).trans (List.suffix_append sep _).isInfix).trans (List.suffix_append first _).isInfix

lemma exists_of_mem_endedLines (h : l ∈ endedLines parts) : ∃ part ∈ parts, l <+: part := by
  induction parts with
  | nil => cases h
  | cons first parts ih =>
    cases parts with
    | nil =>
      rw [endedLines] at h
      split at h
      · cases h
      · exact ⟨l, h, List.prefix_refl l⟩
    | cons next parts =>
      rcases List.mem_cons.mp h with rfl | h
      · refine ⟨first, List.mem_cons_self, ?_⟩
        unfold dropCarriageReturn
        split
        · exact List.dropLast_prefix first
        · exact List.prefix_refl first
      · obtain ⟨part, hpart, hl⟩ := ih h
        exact ⟨part, List.mem_cons_of_mem _ hpart, hl⟩

lemma infix_of_mem_lines (h : l ∈ lines s) : l <:+: s := by
  obtain ⟨part, hpart, hl⟩ := exists_of_mem_endedLines h
  rw [splitAt_eq_splitOn] at hpart
  rw [← s.intercalate_splitOn '\n']
  exact hl.isInfix.trans (infix_intercalate hpart)

lemma prefix_of_prefix_append (h : p <+: a ++ mark :: b) (hp : mark ∉ p) : p <+: a := by
  rcases List.prefix_or_prefix_of_prefix h (List.prefix_append a _) with hpa | ⟨q, rfl⟩
  · exact hpa
  · have hq : q <+: mark :: b := (List.prefix_append_right_inj a).mp h
    cases q with
    | nil => simp
    | cons c q =>
      obtain ⟨rfl, -⟩ := List.cons_prefix_cons.mp hq
      simp at hp

lemma infix_or_of_infix_append (h : p <:+: a ++ mark :: b) (hp : mark ∉ p) : p <:+: a ∨ p <:+: b := by
  induction a with
  | nil =>
    rcases List.infix_cons_iff.mp h with hprefix | hlater
    · exact .inl (prefix_of_prefix_append hprefix hp).isInfix
    · exact .inr hlater
  | cons c a ih =>
    rcases List.infix_cons_iff.mp h with hprefix | hlater
    · exact .inl (prefix_of_prefix_append (a := c :: a) hprefix hp).isInfix
    · exact (ih hlater).imp_left fun h => h.trans (List.suffix_cons c a).isInfix

lemma exists_of_infix_intercalate (h : p <:+: [mark].intercalate parts) (hp : mark ∉ p) (hne : p ≠ []) :
    ∃ part ∈ parts, p <:+: part := by
  induction parts with
  | nil => exact absurd (List.infix_nil.mp h) hne
  | cons first parts ih =>
    cases parts with
    | nil => exact ⟨first, List.mem_cons_self, by simpa using h⟩
    | cons next parts =>
      rw [List.intercalate_cons_cons, List.append_assoc, List.singleton_append] at h
      rcases infix_or_of_infix_append h hp with hfirst | hlater
      · exact ⟨first, List.mem_cons_self, hfirst⟩
      · obtain ⟨part, hpart, hinfix⟩ := ih hlater
        exact ⟨part, List.mem_cons_of_mem _ hpart, hinfix⟩

lemma infix_dropCarriageReturn (h : p <:+: s) (hp : '\r' ∉ p) (hne : p ≠ []) : p <:+: dropCarriageReturn s := by
  unfold dropCarriageReturn
  split
  · next hlast =>
    obtain ⟨front, rfl⟩ := List.getLast?_eq_some_iff.mp hlast
    rw [List.dropLast_concat]
    exact (infix_or_of_infix_append h hp).resolve_right fun hnil => hne (List.infix_nil.mp hnil)
  · exact h

lemma exists_mem_endedLines (hpart : part ∈ parts) (h : p <:+: part) (hp : '\r' ∉ p) (hne : p ≠ []) :
    ∃ l ∈ endedLines parts, p <:+: l := by
  induction parts with
  | nil => cases hpart
  | cons first parts ih =>
    cases parts with
    | nil =>
      obtain rfl := List.mem_singleton.mp hpart
      have hnonempty : part.isEmpty = false := by
        cases part with
        | nil => exact absurd (List.infix_nil.mp h) hne
        | cons c part => rfl
      exact ⟨part, by simp [endedLines, hnonempty], h⟩
    | cons next parts =>
      rcases List.mem_cons.mp hpart with rfl | hpart
      · exact ⟨_, List.mem_cons_self, infix_dropCarriageReturn h hp hne⟩
      · obtain ⟨l, hl, hinfix⟩ := ih hpart
        exact ⟨l, List.mem_cons_of_mem _ hl, hinfix⟩

lemma infix_iff_exists_line (hp : '\n' ∉ p ∧ '\r' ∉ p) (hne : p ≠ []) :
    p <:+: s ↔ ∃ l ∈ lines s, p <:+: l := by
  constructor
  · intro h
    rw [← s.intercalate_splitOn '\n', ← splitAt_eq_splitOn] at h
    obtain ⟨part, hpart, hinfix⟩ := exists_of_infix_intercalate h hp.1 hne
    exact exists_mem_endedLines hpart hinfix hp.2 hne
  · rintro ⟨l, hl, h⟩
    exact h.trans (infix_of_mem_lines hl)

lemma splitBy_eq_cons (q : Char → Bool) (s : List Char) :
    ∃ parts, splitBy q s = s.takeWhile (!q ·) :: parts ∧
      ∀ c, q c = false → splitBy q (c :: s) = (c :: s.takeWhile (!q ·)) :: parts := by
  have hsplit : ∃ parts, splitBy q s = s.takeWhile (!q ·) :: parts := by
    induction s with
    | nil => exact ⟨[], rfl⟩
    | cons c s ih =>
      obtain ⟨parts, ih⟩ := ih
      cases hc : q c with
      | true => exact ⟨splitBy q s, by simp [splitBy, hc]⟩
      | false => exact ⟨parts, by simp [splitBy, hc, ih]⟩
  obtain ⟨parts, hsplit⟩ := hsplit
  exact ⟨parts, hsplit, fun c hc => by simp [splitBy, hc, hsplit]⟩

lemma unmarked_of_any (h : s.any q = false) : ∀ c ∈ s, q c = false := by
  simpa using h

lemma unmarked_of_mem_splitBy {c : Char} (hpart : part ∈ splitBy q s) (hc : c ∈ part) : q c = false := by
  induction s generalizing part with
  | nil =>
    obtain rfl := List.mem_singleton.mp hpart
    cases hc
  | cons d s ih =>
    obtain ⟨parts, hsplit, hcons⟩ := splitBy_eq_cons q s
    cases hd : q d with
    | true =>
      rw [splitBy, if_pos hd] at hpart
      rcases List.mem_cons.mp hpart with rfl | hlater
      · cases hc
      · exact ih hlater hc
    | false =>
      rw [hcons d hd] at hpart
      rcases List.mem_cons.mp hpart with rfl | hlater
      · rcases List.mem_cons.mp hc with rfl | hc
        · exact hd
        · exact ih (hsplit ▸ List.mem_cons_self) hc
      · exact ih (hsplit ▸ List.mem_cons_of_mem _ hlater) hc

lemma prefix_takeWhile (h : p <+: s) (hp : ∀ c ∈ p, q c = false) : p <+: s.takeWhile (!q ·) := by
  obtain ⟨rest, rfl⟩ := h
  rw [List.takeWhile_append_of_pos fun c hc => by simp [hp c hc]]
  exact List.prefix_append p _

lemma infix_iff_exists_piece (hp : ∀ c ∈ p, q c = false) (hne : p ≠ []) :
    p <:+: s ↔ ∃ part ∈ splitBy q s, p <:+: part := by
  induction s with
  | nil => simp [splitBy]
  | cons c s ih =>
    obtain ⟨parts, hsplit, hcons⟩ := splitBy_eq_cons q s
    rw [List.infix_cons_iff, ih]
    cases hc : q c with
    | true =>
      have hhead : ¬ p <+: c :: s := fun h => by
        cases p with
        | nil => exact hne rfl
        | cons d p =>
          obtain ⟨rfl, -⟩ := List.cons_prefix_cons.mp h
          exact absurd hc (by simp [hp d])
      simp only [splitBy, if_pos hc, List.mem_cons, or_and_right, exists_or, exists_eq_left, List.infix_nil]
      exact ⟨fun h => .inr (h.resolve_left hhead), fun h => .inr (h.resolve_left hne)⟩
    | false =>
      have hhead : p <+: c :: s ↔ p <+: c :: s.takeWhile (!q ·) := by
        refine ⟨fun h => ?_, fun h => h.trans ?_⟩
        · have hwhole := prefix_takeWhile h hp
          rwa [List.takeWhile_cons_of_pos (by simp [hc])] at hwhole
        · exact List.cons_prefix_cons.mpr ⟨rfl, List.takeWhile_prefix _⟩
      simp only [hsplit, hcons c hc, List.mem_cons, or_and_right, exists_or, exists_eq_left,
        List.infix_cons_iff, hhead, or_assoc]

lemma infix_iff_exists_word (hp : ∀ c ∈ p, isBlank c = false) (hne : p ≠ []) :
    p <:+: s ↔ ∃ w ∈ words s, p <:+: w := by
  rw [infix_iff_exists_piece hp hne]
  refine exists_congr fun part => ⟨fun ⟨hpart, h⟩ => ⟨List.mem_filter.mpr ⟨hpart, ?_⟩, h⟩,
    fun ⟨hpart, h⟩ => ⟨(List.mem_filter.mp hpart).1, h⟩⟩
  cases part with
  | nil => exact absurd (List.infix_nil.mp h) hne
  | cons c part => rfl

lemma splitOnce?_append (h : mark ∉ front) :
    splitOnce? [mark] (front ++ mark :: rest) = some (front, rest) := by
  induction front with
  | nil => simp [splitOnce?, dropStart?]
  | cons c front ih =>
    obtain ⟨hc, hfront⟩ := not_or.mp (List.mem_cons.not.mp h)
    simp [splitOnce?, dropStart?, hc, ih hfront]

lemma splitOnce?_eq_none (h : mark ∉ s) : splitOnce? [mark] s = none := by
  induction s with
  | nil => rfl
  | cons c s ih =>
    obtain ⟨hc, hs⟩ := not_or.mp (List.mem_cons.not.mp h)
    simp [splitOnce?, dropStart?, hc, ih hs]

lemma eq_append_of_splitOnce? (h : splitOnce? sep s = some (a, b)) : s = a ++ sep ++ b := by
  induction s generalizing a with
  | nil =>
    rw [splitOnce?] at h
    split at h
    · next hsep =>
      obtain ⟨rfl, rfl⟩ := Prod.mk.inj (Option.some.inj h)
      simpa using hsep.symm
    · cases h
  | cons c s ih =>
    rw [splitOnce?] at h
    split at h
    · next hdrop =>
      obtain ⟨rfl, rfl⟩ := Prod.mk.inj (Option.some.inj h)
      exact dropStart?_eq_some_iff.mp hdrop
    · obtain ⟨⟨front, rest⟩, hs, heq⟩ := Option.map_eq_some_iff.mp h
      obtain ⟨rfl, rfl⟩ := Prod.mk.inj heq
      rw [ih hs, List.cons_append, List.cons_append]

lemma dropWhile_append_cons (h : q mark = false) (front back : List Char) :
    (front ++ mark :: back).dropWhile q = front.dropWhile q ++ mark :: back := by
  rw [List.dropWhile_append]
  cases hfront : front.dropWhile q with
  | nil => simp [h]
  | cons c rest => simp

lemma dropRightWhile_append_cons (h : q mark = false) (front back : List Char) :
    dropRightWhile q (front ++ mark :: back) = front ++ mark :: dropRightWhile q back := by
  have hreverse : (front ++ mark :: back).reverse = back.reverse ++ mark :: front.reverse := by simp
  rw [dropRightWhile, hreverse, dropWhile_append_cons h]
  simp [dropRightWhile]

lemma dropRightWhile_append (h : ∀ c ∈ b, q c = true) : dropRightWhile q (a ++ b) = dropRightWhile q a := by
  have hb : ∀ c ∈ b.reverse, q c = true := fun c hc => h c (List.mem_reverse.mp hc)
  rw [dropRightWhile, List.reverse_append, List.dropWhile_append_of_pos hb, dropRightWhile]

lemma exists_eq_dropRightWhile_append (q : Char → Bool) (s : List Char) :
    ∃ b, s = dropRightWhile q s ++ b ∧ ∀ c ∈ b, q c = true := by
  refine ⟨(s.reverse.takeWhile q).reverse, ?_, fun c hc => List.mem_takeWhile_imp (List.mem_reverse.mp hc)⟩
  rw [dropRightWhile, ← List.reverse_append, List.takeWhile_append_dropWhile, List.reverse_reverse]

lemma trimBy_append_cons (h : q mark = false) (front back : List Char) :
    trimBy q (front ++ mark :: back) = front.dropWhile q ++ mark :: dropRightWhile q back := by
  rw [trimBy, dropWhile_append_cons h, dropRightWhile_append_cons h]

lemma trimBy_append_left (h : ∀ c ∈ a, q c = true) : trimBy q (a ++ b) = trimBy q b := by
  rw [trimBy, List.dropWhile_append_of_pos h, trimBy]

lemma trimBy_append_right (h : ∀ c ∈ b, q c = true) : trimBy q (a ++ b) = trimBy q a := by
  rw [trimBy, List.dropWhile_append, trimBy]
  cases ha : a.dropWhile q with
  | nil =>
    have hb : b.dropWhile q = [] := List.dropWhile_eq_nil_iff.mpr h
    simp [hb]
  | cons c rest => exact dropRightWhile_append h

lemma trimBy_dropRightWhile (q : Char → Bool) (s : List Char) : trimBy q (dropRightWhile q s) = trimBy q s := by
  obtain ⟨b, hs, hb⟩ := exists_eq_dropRightWhile_append q s
  conv_rhs => rw [hs]
  exact (trimBy_append_right hb).symm

lemma trimBy_eq_self_iff : trimBy q s = s ↔
    (∀ c ∈ s.head?, q c = false) ∧ ∀ c ∈ s.getLast?, q c = false := by
  have hfront : s.dropWhile q = s ↔ ∀ c ∈ s.head?, q c = false := by
    cases s <;> simp
  have hback : s.rdropWhile q = s ↔ ∀ c ∈ s.getLast?, q c = false := by
    rw [List.rdropWhile_eq_self_iff]
    constructor
    · rintro h c hc
      obtain ⟨t, rfl⟩ := List.getLast?_eq_some_iff.mp hc
      simpa using h
    · intro h hne
      simpa using h _ (List.getLast?_eq_some_getLast hne)
  change (s.dropWhile q).rdropWhile q = s ↔ _
  constructor
  · intro h
    have hle := (List.rdropWhile_prefix q (s.dropWhile q)).length_le
    rw [h] at hle
    have hdrop : s.dropWhile q = s := (List.dropWhile_suffix q).eq_of_length_le hle
    rw [hdrop] at h
    exact ⟨hfront.mp hdrop, hback.mp h⟩
  · rintro ⟨hhead, hlast⟩
    rw [hfront.mpr hhead, hback.mpr hlast]

lemma trim_eq_self_iff : trim s = s ↔
    (∀ c ∈ s.head?, isBlank c = false) ∧ ∀ c ∈ s.getLast?, isBlank c = false := trimBy_eq_self_iff

lemma head?_trim (s : List Char) : (trim s).head? = (s.dropWhile isBlank).head? := by
  rw [trim, trimBy]
  cases hs : s.dropWhile isBlank with
  | nil => rfl
  | cons c rest =>
    have hc : isBlank c = false := by
      have hpos : 0 < (s.dropWhile isBlank).length := by simp [hs]
      simpa [hs] using List.dropWhile_get_zero_not isBlank s hpos
    have hdrop := dropRightWhile_append_cons hc [] rest
    rw [List.nil_append] at hdrop
    rw [hdrop]
    rfl

lemma trim_eq_self (h : ∀ c ∈ s, isBlank c = false) : trim s = s :=
  trim_eq_self_iff.mpr ⟨fun c hc => h c (List.mem_of_mem_head? hc), fun c hc => h c (List.mem_of_mem_getLast? hc)⟩

lemma trim_append (hne : a ≠ []) (ha : ∀ c ∈ a, isBlank c = false) (hb : trim b = b) :
    trim (a ++ b) = a ++ b := by
  obtain ⟨c, a, rfl⟩ := List.exists_cons_of_ne_nil hne
  refine trim_eq_self_iff.mpr ⟨?_, fun d hd => ?_⟩
  · rintro d ⟨⟩
    exact ha c List.mem_cons_self
  · rw [List.getLast?_append, Option.mem_def, Option.or_eq_some_iff] at hd
    rcases hd with hd | ⟨-, hd⟩
    · exact (trim_eq_self_iff.mp hb).2 d hd
    · exact ha d (List.mem_of_mem_getLast? hd)

lemma trim_trim (s : List Char) : trim (trim s) = trim s := by
  have hhead : (trim s).dropWhile isBlank = trim s := by
    refine List.dropWhile_eq_self_iff.mpr fun hpos => ?_
    have hfront : trim s <+: s.dropWhile isBlank := List.rdropWhile_prefix isBlank _
    rw [hfront.getElem hpos]
    exact List.dropWhile_get_zero_not isBlank s (hpos.trans_le hfront.length_le)
  change dropRightWhile isBlank ((trim s).dropWhile isBlank) = trim s
  rw [hhead]
  exact List.rdropWhile_idempotent isBlank _

lemma trim_of_mem_words {w : List Char} (h : w ∈ words s) : trim w = w :=
  trim_eq_self fun _ hc => unmarked_of_mem_splitBy (List.mem_filter.mp h).1 hc

lemma isAsciiDigit_iff {c : Char} : isAsciiDigit c = true ↔ 48 ≤ c.toNat ∧ c.toNat ≤ 57 := by
  simp only [isAsciiDigit, Bool.and_eq_true, decide_eq_true_eq]
  rfl

lemma isAlphanum_iff {c : Char} : c.isAlphanum = true ↔ ((65 ≤ c.toNat ∧ c.toNat ≤ 90) ∨
    (97 ≤ c.toNat ∧ c.toNat ≤ 122)) ∨ (48 ≤ c.toNat ∧ c.toNat ≤ 57) := by
  change ((decide (65 ≤ c.toNat ∧ c.toNat ≤ 90) || (decide (97 ≤ c.toNat) && decide (c.toNat ≤ 122))) ||
    (decide (48 ≤ c.toNat) && decide (c.toNat ≤ 57))) = true ↔ _
  simp only [Bool.or_eq_true, Bool.and_eq_true, decide_eq_true_eq]

lemma isBlank_of_range {c : Char} (h : 33 ≤ c.toNat) (h' : c.toNat ≤ 122) :
    isBlank c = false := by
  simp only [isBlank, CharSet.contains, blanks, List.any_cons, List.any_nil, Bool.or_false,
    Bool.or_eq_false_iff, Bool.and_eq_false_iff, decide_eq_false_iff_not]
  omega

lemma isDecimalDigit_of_isAsciiDigit {c : Char} (h : isAsciiDigit c = true) :
    isDecimalDigit c = true := by
  obtain ⟨hlow, hhigh⟩ := isAsciiDigit_iff.mp h
  refine List.any_eq_true.mpr ⟨(0x30, 0x39), List.mem_cons_self, ?_⟩
  simp [hlow, hhigh]

lemma isAsciiDigit_of_mem_toDigits {n : Nat} {c : Char} (h : c ∈ Nat.toDigits 10 n) :
    isAsciiDigit c = true := by
  have hdigit : c.isDigit = true := Nat.isDigit_of_mem_toDigits (by decide) (by decide) h
  rw [Char.isDigit, Bool.and_eq_true, decide_eq_true_eq, decide_eq_true_eq] at hdigit
  exact isAsciiDigit_iff.mpr hdigit

lemma takeWhile_append_of_head {p : Char → Bool} (hfront : ∀ c ∈ front, p c = true)
    (hrest : ∀ c ∈ rest.head?, p c = false) : (front ++ rest).takeWhile p = front := by
  rw [List.takeWhile_append_of_pos hfront]
  cases rest with
  | nil => simp
  | cons c rest => simp [hrest c rfl]

lemma dropWhile_append_of_head {p : Char → Bool} (hfront : ∀ c ∈ front, p c = true)
    (hrest : ∀ c ∈ rest.head?, p c = false) : (front ++ rest).dropWhile p = rest := by
  rw [List.dropWhile_append_of_pos hfront]
  cases rest with
  | nil => rfl
  | cons c rest => simp [hrest c rfl]

end Text

namespace Decimal

open Text

lemma digitValue_lt {c : Char} (h : isAsciiDigit c = true) : digitValue c < 10 := by
  have hcode := isAsciiDigit_iff.mp h
  have hzero : '0'.toNat = 48 := rfl
  rw [digitValue]
  omega

lemma digitChar_digitValue {c : Char} (h : isAsciiDigit c = true) : (digitValue c).digitChar = c := by
  have hcode := isAsciiDigit_iff.mp h
  have hzero : '0'.toNat = 48 := rfl
  refine Char.toNat_inj.mp ?_
  rw [Nat.toNat_digitChar_of_lt_ten (digitValue_lt h), digitValue]
  omega

lemma ofDigits_concat (s : List Char) (c : Char) : ofDigits (s ++ [c]) = 10 * ofDigits s + digitValue c := by
  rw [ofDigits, List.foldl_append, List.foldl_cons, List.foldl_nil, Nat.mul_comm, ofDigits]

lemma readNat?_toDigits (n : Nat) : readNat? (Nat.toDigits 10 n) = some n := by
  have hdigits : (Nat.toDigits 10 n).all isAsciiDigit = true :=
    List.all_eq_true.mpr fun c => isAsciiDigit_of_mem_toDigits
  have hvalue : ofDigits (Nat.toDigits 10 n) = n := by
    refine Eq.trans ?_ Nat.ofDigitChars_ten_toDigits
    simp only [ofDigits, Nat.ofDigitChars, Nat.mul_comm, digitValue]
  rw [readNat?, if_pos ⟨Nat.toDigits_ne_nil, hdigits⟩, hvalue]

lemma readBelow?_of_ne_plus {s : List Char} (bound : Nat) (h : ∀ r, s ≠ '+' :: r) :
    readBelow? bound s = (readNat? s).filter (· < bound) := by
  rw [readBelow?]
  · cases readNat? s <;> simp [Option.filter_some]
  · exact h

lemma readBelow?_toDigits (bound n : Nat) :
    readBelow? bound (Nat.toDigits 10 n) = if n < bound then some n else none := by
  rw [readBelow?_of_ne_plus, readNat?_toDigits, Option.filter_some]
  · simp
  · intro r hr
    have hplus := isAsciiDigit_of_mem_toDigits (n := n) (hr ▸ List.mem_cons_self)
    exact absurd hplus (by decide)

lemma readUInt64?_toDigits (n : Nat) :
    readUInt64? (Nat.toDigits 10 n) = if n < UInt64.size then some (.ofNat n) else none := by
  rw [readUInt64?, readBelow?_toDigits]
  split <;> rfl

lemma readUInt64?_eq_some_iff_of_not_mem {s : List Char} {u : UInt64} (hne : s ≠ []) (hplus : '+' ∉ s) :
    readUInt64? s = some u ↔ (∀ c ∈ s, isAsciiDigit c = true) ∧ ofDigits s = u.toNat := by
  have hstart : ∀ r, s ≠ '+' :: r := by
    rintro r rfl
    exact hplus List.mem_cons_self
  rw [readUInt64?, readBelow?_of_ne_plus _ hstart, readNat?]
  by_cases hascii : s.all isAsciiDigit = true
  · rw [if_pos ⟨hne, hascii⟩, Option.filter_some, and_iff_right (List.all_eq_true.mp hascii)]
    by_cases hlt : ofDigits s < UInt64.size
    · rw [if_pos (decide_eq_true hlt), Option.map_some, Option.some.injEq]
      constructor
      · rintro rfl
        exact (UInt64.toNat_ofNat_of_lt' hlt).symm
      · intro heq
        rw [heq, UInt64.ofNat_toNat]
    · rw [if_neg (by simpa using hlt)]
      exact iff_of_false (by simp) fun heq => hlt (heq ▸ u.toNat_lt_size)
  · rw [if_neg fun hboth => hascii hboth.2]
    exact iff_of_false (by simp) fun hboth => hascii (List.all_eq_true.mpr hboth.1)

lemma readUInt64?_eq_none {s : List Char} {c : Char} (hplus : '+' ∉ s) (hc : c ∈ s)
    (hdigit : isAsciiDigit c = false) : readUInt64? s = none := by
  refine Option.eq_none_iff_forall_ne_some.mpr fun u hu => ?_
  obtain ⟨hdigits, -⟩ := (readUInt64?_eq_some_iff_of_not_mem (List.ne_nil_of_mem hc) hplus).mp hu
  exact absurd (hdigits c hc) (by simp [hdigit])

end Decimal

end HostProbe
