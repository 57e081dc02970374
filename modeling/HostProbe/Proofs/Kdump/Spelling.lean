import HostProbe.Proofs.Kdump.Version
import Mathlib.Data.List.TakeWhile
import Mathlib.Data.Prod.Lex

/-! Where the version of the loader stands in what it prints. A spelling of a version is a name, a gap and
three runs of digits with one character between them; the first line that begins with a spelling counts,
and of its spellings the one with the longest runs. The character between the runs can be any. -/

namespace HostProbe.Kexec

open HostProbe.Text HostProbe.Decimal NodeM

variable {σ : Type} {s t a b c rest : List Char}

section Runs

def IsRun (s : List Char) : Prop := s ≠ [] ∧ ∀ c ∈ s, isDecimalDigit c = true

instance : DecidablePred IsRun := fun s =>
  decidable_of_iff (s ≠ [] ∧ s.all isDecimalDigit = true) (and_congr_right fun _ => List.all_eq_true)

structure Triple where
  major : List Char
  firstMark : Char
  minor : List Char
  secondMark : Char
  patch : List Char
  major_run : IsRun major
  minor_run : IsRun minor
  patch_run : IsRun patch
  firstMark_ne : firstMark ≠ '\n'
  secondMark_ne : secondMark ≠ '\n'

namespace Triple

def text (w : Triple) : List Char := w.major ++ w.firstMark :: (w.minor ++ w.secondMark :: w.patch)

def lengths (w : Triple) : ℕ ×ₗ ℕ ×ₗ ℕ :=
  toLex (w.major.length, toLex (w.minor.length, w.patch.length))

def Longest (w : Triple) (s : List Char) : Prop :=
  w.text <+: s ∧ ∀ w' : Triple, w'.text <+: s → w'.lengths ≤ w.lengths

lemma text_prefix_iff {w : Triple} : w.text <+: s ↔ ∃ rest,
    s = w.major ++ w.firstMark :: (w.minor ++ w.secondMark :: (w.patch ++ rest)) := by
  simp only [text, List.prefix_iff_exists_eq_append, List.append_assoc, List.cons_append]

lemma eq_of_lengths_eq {w w' : Triple} (h : w.text <+: s) (h' : w'.text <+: s)
    (hlengths : w.lengths = w'.lengths) : w = w' := by
  obtain ⟨rest, rfl⟩ := text_prefix_iff.mp h
  obtain ⟨rest', heq⟩ := text_prefix_iff.mp h'
  obtain ⟨hmajor, hothers⟩ := Prod.mk.inj (toLex_inj.mp hlengths)
  obtain ⟨hminor, hpatch⟩ := Prod.mk.inj (toLex_inj.mp hothers)
  obtain ⟨ha, heq⟩ := List.append_inj heq hmajor
  obtain ⟨hx, heq⟩ := List.cons.inj heq
  obtain ⟨hb, heq⟩ := List.append_inj heq hminor
  obtain ⟨hy, heq⟩ := List.cons.inj heq
  obtain ⟨hc, -⟩ := List.append_inj heq hpatch
  cases w
  cases w'
  cases ha
  cases hx
  cases hb
  cases hy
  cases hc
  rfl

end Triple

lemma length_le_of_isRun (h : IsRun a) (rest : List Char) :
    a.length ≤ ((a ++ rest).takeWhile isDecimalDigit).length := by
  rw [List.takeWhile_append_of_pos h.2]
  simp

lemma mem_digitCuts : (a, rest) ∈ digitCuts s ↔ s = a ++ rest ∧ IsRun a := by
  simp only [digitCuts, List.mem_map, List.mem_reverse, List.mem_range, List.splitAt_eq, Prod.mk.injEq]
  constructor
  · rintro ⟨i, hi, rfl, rfl⟩
    have hrun : s.take (i + 1) <+: s.takeWhile isDecimalDigit := by
      have hprefix : s.takeWhile isDecimalDigit <+: s := List.takeWhile_prefix _
      exact List.prefix_of_prefix_length_le (List.take_prefix _ _) hprefix
        ((List.length_take_le _ _).trans hi)
    refine ⟨(List.take_append_drop _ _).symm, fun hnil => ?_, fun d hd => ?_⟩
    · obtain hzero | rfl := List.take_eq_nil_iff.mp hnil
      · omega
      · simp at hi
    · exact List.mem_takeWhile_imp (hrun.subset hd)
  · rintro ⟨rfl, hrun⟩
    have hpos : 0 < a.length := List.length_pos_iff.mpr hrun.1
    refine ⟨a.length - 1, ?_, ?_, ?_⟩
    · have hle := length_le_of_isRun hrun rest
      omega
    · rw [Nat.sub_add_cancel hpos, List.take_left]
    · rw [Nat.sub_add_cancel hpos, List.drop_left]

lemma pairwise_digitCuts (s : List Char) :
    (digitCuts s).Pairwise fun x y => y.1.length < x.1.length := by
  have hle : (s.takeWhile isDecimalDigit).length ≤ s.length := (List.takeWhile_prefix _).length_le
  rw [digitCuts, List.pairwise_map, List.pairwise_reverse]
  refine List.pairwise_lt_range.imp_of_mem fun {i j} hi hj hij => ?_
  have hj' := List.mem_range.mp hj
  simp only [List.splitAt_eq, List.length_take]
  omega

lemma findSome?_greatest {γ β : Type} {f : γ → Option β} {size : γ → Nat} {l : List γ} {r : β}
    (hl : l.Pairwise fun x y => size y < size x) (h : l.findSome? f = some r) :
    ∃ x ∈ l, f x = some r ∧ ∀ y ∈ l, size x < size y → f y = none := by
  obtain ⟨greater, x, smaller, rfl, hfound, hnone⟩ := List.findSome?_eq_some_iff.mp h
  refine ⟨x, List.mem_append_right greater List.mem_cons_self, hfound, fun y hy hlt => ?_⟩
  rcases List.mem_append.mp hy with hgreater | hsmaller
  · exact hnone y hgreater
  · have hpairwise := (List.pairwise_append.mp hl).2.1
    rcases List.mem_cons.mp hsmaller with rfl | hlater
    · exact absurd hlt (lt_irrefl _)
    · exact absurd hlt (List.rel_of_pairwise_cons hpairwise hlater).not_gt

lemma findSome?_digitCuts {β : Type} {f : List Char × List Char → Option β} {r : β}
    (h : (digitCuts s).findSome? f = some r) : ∃ a rest, s = a ++ rest ∧ IsRun a ∧ f (a, rest) = some r ∧
      ∀ a' rest', s = a' ++ rest' → IsRun a' → a.length < a'.length → f (a', rest') = none := by
  obtain ⟨⟨a, rest⟩, hmem, hfound, hnone⟩ := findSome?_greatest (pairwise_digitCuts s) h
  obtain ⟨hs, hrun⟩ := mem_digitCuts.mp hmem
  exact ⟨a, rest, hs, hrun, hfound, fun a' rest' hs' hrun' => hnone _ (mem_digitCuts.mpr ⟨hs', hrun'⟩)⟩

def thirdRun? (a b : List Char) (x : Char) (s : List Char) :
    Option (List Char × List Char × List Char × List Char) := do
  let (y, rest) ← pastOne? s
  match rest.takeWhile isDecimalDigit with
  | [] => none
  | run => some (a, b, run, a ++ [x] ++ b ++ [y] ++ run)

def secondRun? (a : List Char) (s : List Char) :
    Option (List Char × List Char × List Char × List Char) := do
  let (x, afterX) ← pastOne? s
  (digitCuts afterX).findSome? fun (b, afterB) => thirdRun? a b x afterB

lemma triple?_eq (s : List Char) :
    triple? s = (digitCuts s).findSome? fun (a, afterA) => secondRun? a afterA := rfl

lemma pastOne?_eq_some_iff {x : Char} : pastOne? s = some (x, rest) ↔ s = x :: rest ∧ x ≠ '\n' := by
  cases s with
  | nil => simp [pastOne?]
  | cons c s =>
    by_cases hc : c = '\n'
    · simp only [pastOne?, hc, if_true]
      exact iff_of_false nofun fun h => h.2 (List.cons.inj h.1).1.symm
    · simp only [pastOne?, hc, if_false, Option.some.injEq, Prod.mk.injEq, List.cons.injEq]
      exact ⟨fun h => ⟨h, h.1 ▸ hc⟩, And.left⟩

lemma thirdRun?_some {x : Char} {r : List Char × List Char × List Char × List Char}
    (h : thirdRun? a b x s = some r) : ∃ y c rest, s = y :: (c ++ rest) ∧ y ≠ '\n' ∧ IsRun c ∧
      (∀ d ∈ rest.head?, isDecimalDigit d = false) ∧ r = (a, b, c, a ++ [x] ++ b ++ [y] ++ c) := by
  obtain ⟨⟨y, t⟩, hpast, hpatch⟩ := Option.bind_eq_some_iff.mp h
  obtain ⟨rfl, hy⟩ := pastOne?_eq_some_iff.mp hpast
  dsimp only at hpatch
  split at hpatch
  · cases hpatch
  · next run hne =>
    cases hpatch
    refine ⟨y, _, t.dropWhile isDecimalDigit, ?_, hy, ⟨fun hnil => hne hnil, fun d hd => ?_⟩, ?_, rfl⟩
    · rw [List.takeWhile_append_dropWhile]
    · exact List.mem_takeWhile_imp hd
    · intro d hd
      have hhead := List.head?_dropWhile_not isDecimalDigit t
      rw [Option.mem_def.mp hd] at hhead
      simpa using hhead

lemma thirdRun?_none {x y : Char} (h : thirdRun? a b x (y :: (c ++ rest)) = none) (hy : y ≠ '\n') :
    ¬ IsRun c := by
  intro hrun
  have hpast : pastOne? (y :: (c ++ rest)) = some (y, c ++ rest) := pastOne?_eq_some_iff.mpr ⟨rfl, hy⟩
  rw [thirdRun?, hpast, Option.bind_eq_bind, Option.bind_some] at h
  dsimp only at h
  rw [List.takeWhile_append_of_pos hrun.2] at h
  split at h
  · next hnil => exact hrun.1 (List.append_eq_nil_iff.mp hnil).1
  · cases h

lemma secondRun?_none {x y : Char} (h : secondRun? a (x :: (b ++ y :: (c ++ rest))) = none)
    (hx : x ≠ '\n') (hy : y ≠ '\n') (hb : IsRun b) : ¬ IsRun c := by
  rw [secondRun?, pastOne?_eq_some_iff.mpr ⟨rfl, hx⟩, Option.bind_eq_bind, Option.bind_some] at h
  have hthird : thirdRun? a b x _ = none :=
    List.findSome?_eq_none_iff.mp h _ (mem_digitCuts.mpr ⟨rfl, hb⟩)
  exact thirdRun?_none hthird hy

lemma length_le_of_append_eq (h : a ++ rest = b ++ t) (hend : ∀ d ∈ rest.head?, isDecimalDigit d = false)
    (ha : IsRun a) (hb : IsRun b) : b.length ≤ a.length := by
  have hle := length_le_of_isRun hb t
  rwa [← h, takeWhile_append_of_head ha.2 hend] at hle

lemma Triple.lengths_le {w w' : Triple} (heq : w.major ++ w.firstMark :: (w.minor ++
      w.secondMark :: (w.patch ++ rest)) = w'.major ++ w'.firstMark :: (w'.minor ++ w'.secondMark :: (w'.patch ++ t)))
    (hmajor : w'.major.length ≤ w.major.length)
    (hminor : w.minor ++ w.secondMark :: (w.patch ++ rest) = w'.minor ++ w'.secondMark :: (w'.patch ++ t) →
      w'.minor.length ≤ w.minor.length)
    (hend : ∀ d ∈ rest.head?, isDecimalDigit d = false) : w'.lengths ≤ w.lengths := by
  refine Prod.Lex.toLex_le_toLex'.mpr ⟨hmajor, fun hsame => ?_⟩
  obtain ⟨-, heq⟩ := List.append_inj heq hsame.symm
  obtain ⟨-, heq⟩ := List.cons.inj heq
  refine Prod.Lex.toLex_le_toLex'.mpr ⟨hminor heq, fun hsame => ?_⟩
  obtain ⟨-, heq⟩ := List.append_inj heq hsame.symm
  obtain ⟨-, heq⟩ := List.cons.inj heq
  exact length_le_of_append_eq heq hend w.patch_run w'.patch_run

lemma triple?_some {r : List Char × List Char × List Char × List Char} (h : triple? s = some r) :
    ∃ w : Triple, w.Longest s ∧ r = (w.major, w.minor, w.patch, w.text) := by
  rw [triple?_eq] at h
  obtain ⟨a, afterA, rfl, hmajor, hsecond, hnoMajor⟩ := findSome?_digitCuts h
  obtain ⟨⟨x, afterX⟩, hpast, hminors⟩ := Option.bind_eq_some_iff.mp hsecond
  obtain ⟨rfl, hx⟩ := pastOne?_eq_some_iff.mp hpast
  obtain ⟨b, afterB, rfl, hminor, hthird, hnoMinor⟩ := findSome?_digitCuts hminors
  obtain ⟨y, c, rest, rfl, hy, hpatch, hend, rfl⟩ := thirdRun?_some hthird
  let w : Triple := ⟨a, x, b, y, c, hmajor, hminor, hpatch, hx, hy⟩
  refine ⟨w, ⟨Triple.text_prefix_iff.mpr ⟨rest, rfl⟩, fun w' hw' => ?_⟩, by simp [w, Triple.text]⟩
  obtain ⟨rest', heq⟩ := Triple.text_prefix_iff.mp hw'
  -- A longer first run leaves no second and third one, and so does a longer second run after the first.
  have hmajorLe : w'.major.length ≤ a.length := by
    by_contra hlonger
    have hnone := hnoMajor _ _ heq w'.major_run (not_le.mp hlonger)
    exact secondRun?_none hnone w'.firstMark_ne w'.secondMark_ne w'.minor_run w'.patch_run
  refine Triple.lengths_le (w := w) heq hmajorLe (fun heq => ?_) hend
  by_contra hlonger
  have hnone := hnoMinor _ _ heq w'.minor_run (not_le.mp hlonger)
  exact thirdRun?_none hnone w'.secondMark_ne w'.patch_run

lemma triple?_none (h : triple? s = none) (w : Triple) : ¬ w.text <+: s := by
  intro hw
  obtain ⟨rest, hs⟩ := Triple.text_prefix_iff.mp hw
  rw [triple?_eq, List.findSome?_eq_none_iff] at h
  have hsecond : secondRun? w.major _ = none := h _ (mem_digitCuts.mpr ⟨hs, w.major_run⟩)
  exact secondRun?_none hsecond w.firstMark_ne w.secondMark_ne w.minor_run w.patch_run

end Runs

section Place

structure Spelling where
  name : List Char
  gap : List Char
  numbers : Triple
  name_ne : name ≠ []
  name_blank : ∀ c ∈ name, isBlank c = false
  gap_ne : gap ≠ []
  gap_blank : ∀ c ∈ gap, isBlank c = true

namespace Spelling

def text (p : Spelling) : List Char := "kexec".toList ++ (p.name ++ (p.gap ++ p.numbers.text))

def Longest (p : Spelling) (s : List Char) : Prop :=
  p.text <+: s ∧ ∀ p' : Spelling, p'.text <+: s → p'.numbers.lengths ≤ p.numbers.lengths

def mention (p : Spelling) : Mention := ⟨p.text, p.numbers.major, p.numbers.minor, p.numbers.patch⟩

end Spelling

lemma isBlank_of_isDecimalDigit {c : Char} (h : isDecimalDigit c = true) : isBlank c = false := by
  have hapart : ∀ r ∈ decimalDigits, ∀ q ∈ blanks, r.2 < q.1 ∨ q.2 < r.1 := by decide
  obtain ⟨r, hr, hin⟩ := List.any_eq_true.mp h
  rw [isBlank, CharSet.contains, List.any_eq_false]
  intro q hq hin'
  have hdisjoint := hapart r hr q hq
  simp only [Bool.and_eq_true, decide_eq_true_eq] at hin hin'
  omega

lemma Spelling.text_prefix_iff {p : Spelling} : p.text <+: "kexec".toList ++ s ↔
    p.name = s.takeWhile (!isBlank ·) ∧ p.gap = (s.dropWhile (!isBlank ·)).takeWhile isBlank ∧
      p.numbers.text <+: (s.dropWhile (!isBlank ·)).dropWhile isBlank := by
  have hname : ∀ c ∈ p.name, (!isBlank c) = true := fun c hc => by simp [p.name_blank c hc]
  rw [text, List.prefix_append_right_inj]
  constructor
  · rintro ⟨rest, rfl⟩
    have hgap : ∀ c ∈ (p.gap ++ (p.numbers.text ++ rest)).head?, (!isBlank c) = false := by
      obtain ⟨d, gap, hd⟩ := List.exists_cons_of_ne_nil p.gap_ne
      simp [hd, p.gap_blank d (hd ▸ List.mem_cons_self)]
    have hnumbers : ∀ c ∈ (p.numbers.text ++ rest).head?, isBlank c = false := by
      obtain ⟨d, run, hd⟩ := List.exists_cons_of_ne_nil p.numbers.major_run.1
      have hdigit := p.numbers.major_run.2 d (hd ▸ List.mem_cons_self)
      simp [Triple.text, hd, isBlank_of_isDecimalDigit hdigit]
    simp only [List.append_assoc]
    rw [takeWhile_append_of_head hname hgap, dropWhile_append_of_head hname hgap,
      takeWhile_append_of_head p.gap_blank hnumbers, dropWhile_append_of_head p.gap_blank hnumbers]
    exact ⟨rfl, rfl, List.prefix_append _ _⟩
  · rintro ⟨hname, hgap, rest, hrest⟩
    refine ⟨rest, ?_⟩
    rw [hname, hgap, List.append_assoc, List.append_assoc, hrest, List.takeWhile_append_dropWhile,
      List.takeWhile_append_dropWhile]

lemma Spelling.exists_of_prefix {p : Spelling} (h : p.text <+: s) : ∃ t, s = "kexec".toList ++ t := by
  obtain ⟨rest, rfl⟩ := h
  exact ⟨_, by rw [text, List.append_assoc]⟩

lemma Spelling.eq_of_longest {p p' : Spelling} (h : p.Longest s) (h' : p'.Longest s) : p = p' := by
  obtain ⟨t, rfl⟩ := Spelling.exists_of_prefix h.1
  obtain ⟨hname, hgap, hnumbers⟩ := Spelling.text_prefix_iff.mp h.1
  obtain ⟨hname', hgap', hnumbers'⟩ := Spelling.text_prefix_iff.mp h'.1
  have hsame : p.numbers = p'.numbers :=
    Triple.eq_of_lengths_eq hnumbers hnumbers' (le_antisymm (h'.2 p h.1) (h.2 p' h'.1))
  cases p
  cases p'
  cases hname.trans hname'.symm
  cases hgap.trans hgap'.symm
  cases hsame
  rfl

lemma mentionAt?_some {m : Mention} (h : mentionAt? s = some m) :
    ∃ p : Spelling, p.Longest s ∧ m = p.mention := by
  obtain ⟨t, hstart, hmention⟩ := Option.bind_eq_some_iff.mp h
  obtain rfl := dropStart?_eq_some_iff.mp hstart
  dsimp only at hmention
  split at hmention
  · cases hmention
  · next hparts =>
    obtain ⟨⟨a, b, c, taken⟩, htriple, hm⟩ := Option.bind_eq_some_iff.mp hmention
    obtain ⟨w, hw, heq⟩ := triple?_some htriple
    simp only [Bool.or_eq_true, List.isEmpty_iff, not_or] at hparts
    let p : Spelling :=
      { name := t.takeWhile (!isBlank ·)
        gap := (t.dropWhile (!isBlank ·)).takeWhile isBlank
        numbers := w
        name_ne := hparts.1
        name_blank := fun c hc => by simpa using List.mem_takeWhile_imp hc
        gap_ne := hparts.2
        gap_blank := fun c hc => List.mem_takeWhile_imp hc }
    refine ⟨p, ⟨Spelling.text_prefix_iff.mpr ⟨rfl, rfl, hw.1⟩, fun p' hp' => ?_⟩, ?_⟩
    · exact hw.2 _ (Spelling.text_prefix_iff.mp hp').2.2
    · cases heq
      cases hm
      simp [p, Spelling.mention, Spelling.text]

lemma mentionAt?_none (h : mentionAt? s = none) (p : Spelling) : ¬ p.text <+: s := by
  intro hp
  obtain ⟨t, rfl⟩ := Spelling.exists_of_prefix hp
  obtain ⟨hname, hgap, hnumbers⟩ := Spelling.text_prefix_iff.mp hp
  have hstart : dropStart? "kexec".toList ("kexec".toList ++ t) = some t := dropStart?_eq_some_iff.mpr rfl
  rw [mentionAt?, hstart, Option.bind_eq_bind, Option.bind_some] at h
  dsimp only at h
  rw [← hname, ← hgap, if_neg (by simp [p.name_ne, p.gap_ne])] at h
  cases htriple : triple? ((t.dropWhile (!isBlank ·)).dropWhile isBlank) with
  | none => exact triple?_none htriple p.numbers hnumbers
  | some r =>
    rw [htriple] at h
    cases h

end Place

section First

def lineStarts (s : List Char) : List (List Char) := s :: later s
where
  later : List Char → List (List Char)
    | [] => []
    | c :: s => if c = '\n' then s :: later s else later s

structure FirstSpelled (output lines : List Char) : Prop where
  starts : ∃ front, output = front ++ lines ∧ (front = [] ∨ front.getLast? = some '\n')
  spelled : ∃ p : Spelling, p.text <+: lines
  first : ∀ front lines', output = front ++ lines' → (front = [] ∨ front.getLast? = some '\n') →
    lines.length < lines'.length → ∀ p : Spelling, ¬ p.text <+: lines'

lemma mem_later : t ∈ lineStarts.later s ↔ ∃ front, s = front ++ '\n' :: t := by
  induction s with
  | nil => simp [lineStarts.later]
  | cons c s ih =>
    have hcut : (∃ front, c :: s = front ++ '\n' :: t) ↔
        (c = '\n' ∧ s = t) ∨ ∃ front, s = front ++ '\n' :: t := by
      constructor
      · rintro ⟨front, heq⟩
        obtain ⟨rfl, heq⟩ | ⟨front, rfl, heq⟩ := List.cons_eq_append_iff.mp heq
        · exact .inl ⟨(List.cons.inj heq).1, (List.cons.inj heq).2⟩
        · exact .inr ⟨front, (List.cons.inj heq).2⟩
      · rintro (⟨rfl, rfl⟩ | ⟨front, rfl⟩)
        · exact ⟨[], rfl⟩
        · exact ⟨c :: front, rfl⟩
    rw [hcut, ← ih, lineStarts.later]
    split
    · next hc => simp [hc, eq_comm]
    · next hc => simp [hc]

lemma mem_lineStarts : t ∈ lineStarts s ↔
    ∃ front, s = front ++ t ∧ (front = [] ∨ front.getLast? = some '\n') := by
  rw [lineStarts, List.mem_cons, mem_later]
  constructor
  · rintro (rfl | ⟨front, rfl⟩)
    · exact ⟨[], rfl, .inl rfl⟩
    · exact ⟨front ++ ['\n'], by simp, .inr (by simp)⟩
  · rintro ⟨front, rfl, rfl | hline⟩
    · exact .inl rfl
    · obtain ⟨front, rfl⟩ := List.getLast?_eq_some_iff.mp hline
      exact .inr ⟨front, by simp⟩

lemma pairwise_later (s : List Char) :
    (lineStarts.later s).Pairwise fun x y => y.length < x.length := by
  induction s with
  | nil => exact .nil
  | cons c s ih =>
    rw [lineStarts.later]
    split
    · refine List.pairwise_cons.mpr ⟨fun t ht => ?_, ih⟩
      obtain ⟨front, rfl⟩ := mem_later.mp ht
      simp only [List.length_append, List.length_cons]
      omega
    · exact ih

lemma pairwise_lineStarts (s : List Char) : (lineStarts s).Pairwise fun x y => y.length < x.length := by
  refine List.pairwise_cons.mpr ⟨fun t ht => ?_, pairwise_later s⟩
  obtain ⟨front, rfl⟩ := mem_later.mp ht
  simp only [List.length_append, List.length_cons]
  omega

lemma go_eq (s : List Char) : mention?.go s = (lineStarts.later s).findSome? mentionAt? := by
  induction s with
  | nil => rfl
  | cons c s ih =>
    rw [mention?.go, lineStarts.later]
    split
    · rw [List.findSome?_cons, ih]
      cases mentionAt? s <;> rfl
    · exact ih

lemma mention?_eq (s : List Char) : mention? s = (lineStarts s).findSome? mentionAt? := by
  rw [mention?, lineStarts, List.findSome?_cons, go_eq]
  cases mentionAt? s <;> rfl

lemma mention?_some {m : Mention} (h : mention? s = some m) :
    ∃ lines, ∃ p : Spelling, FirstSpelled s lines ∧ p.Longest lines ∧ m = p.mention := by
  rw [mention?_eq] at h
  obtain ⟨lines, hmem, hm, hnone⟩ := findSome?_greatest (pairwise_lineStarts s) h
  obtain ⟨p, hp, rfl⟩ := mentionAt?_some hm
  refine ⟨lines, p, ⟨mem_lineStarts.mp hmem, ⟨p, hp.1⟩, fun front lines' hs hfront hlength => ?_⟩, hp, rfl⟩
  exact mentionAt?_none (hnone lines' (mem_lineStarts.mpr ⟨front, hs, hfront⟩) hlength)

lemma mention?_none (h : mention? s = none) (lines : List Char) : ¬ FirstSpelled s lines := by
  rintro ⟨hstarts, ⟨p, hp⟩, -⟩
  rw [mention?_eq, List.findSome?_eq_none_iff] at h
  exact mentionAt?_none (h lines (mem_lineStarts.mpr hstarts)) p hp

lemma FirstSpelled.unique {lines lines' : List Char} (h : FirstSpelled s lines)
    (h' : FirstSpelled s lines') : lines = lines' := by
  obtain ⟨front, hs, hfront⟩ := h.starts
  obtain ⟨front', hs', hfront'⟩ := h'.starts
  have hlength : lines.length = lines'.length := by
    refine le_antisymm (not_lt.mp fun hlt => ?_) (not_lt.mp fun hlt => ?_)
    · obtain ⟨p, hp⟩ := h.spelled
      exact h'.first front lines hs hfront hlt p hp
    · obtain ⟨p, hp⟩ := h'.spelled
      exact h.first front' lines' hs' hfront' hlt p hp
  exact (List.append_inj_right' (hs.symm.trans hs') hlength)

lemma mention?_of_firstSpelled {lines : List Char} (h : FirstSpelled s lines) {p : Spelling}
    (hp : p.Longest lines) : mention? s = some p.mention := by
  cases hm : mention? s with
  | none => exact absurd h (mention?_none hm lines)
  | some m =>
    obtain ⟨lines', p', h', hp', rfl⟩ := mention?_some hm
    obtain rfl := h.unique h'
    rw [Spelling.eq_of_longest hp' hp]

lemma exists_longest {p : Spelling} (h : p.text <+: s) : ∃ p' : Spelling, p'.Longest s := by
  cases hm : mentionAt? s with
  | none => exact absurd h (mentionAt?_none hm p)
  | some m =>
    obtain ⟨p', hp', -⟩ := mentionAt?_some hm
    exact ⟨p', hp'⟩

end First

section Told

def Writes (run : List Char) (u : UInt64) : Prop :=
  (∀ c ∈ run, isAsciiDigit c = true) ∧ ofDigits run = u.toNat

namespace Triple

variable (w : Triple)

def Tells (v : Version) : Prop := ∃ major minor patch, v = .release major minor patch ∧
  Writes w.major major ∧ Writes w.minor minor ∧ Writes w.patch patch

def IsDotted : Prop := w.firstMark = '.' ∧ w.secondMark = '.'

variable {w}

lemma IsDotted.longest (h : w.IsDotted) (hend : ∀ d ∈ rest.head?, isDecimalDigit d = false) :
    w.Longest (w.text ++ rest) := by
  refine ⟨List.prefix_append _ _, fun w' hw' => ?_⟩
  obtain ⟨rest', heq⟩ := text_prefix_iff.mp hw'
  have hmark (mark : Char) (hdot : mark = '.') (t : List Char) :
      ∀ d ∈ (mark :: t).head?, isDecimalDigit d = false := by
    rintro d ⟨⟩
    rw [hdot]
    decide
  simp only [text, List.append_assoc, List.cons_append] at heq
  refine lengths_le heq ?_ (fun heq => ?_) hend
  · exact length_le_of_append_eq heq (hmark _ h.1 _) w.major_run w'.major_run
  · exact length_le_of_append_eq heq (hmark _ h.2 _) w.minor_run w'.minor_run

end Triple

namespace Spelling

variable {p : Spelling}

/-- A text begins with the spelling, whose runs are separated by dots, and with no more of its last run. -/
def Dotted (p : Spelling) (s : List Char) : Prop :=
  p.numbers.IsDotted ∧ ∃ rest, s = p.text ++ rest ∧ ∀ d ∈ rest.head?, isDecimalDigit d = false

lemma Dotted.longest (h : p.Dotted s) : p.Longest s := by
  obtain ⟨hdots, rest, rfl, hend⟩ := h
  have hp : p.text <+: p.text ++ rest := List.prefix_append _ _
  refine ⟨hp, fun p' hp' => ?_⟩
  obtain ⟨t, ht⟩ := exists_of_prefix hp
  rw [ht] at hp hp'
  obtain ⟨hname, hgap, -⟩ := text_prefix_iff.mp hp
  obtain ⟨-, -, hnumbers'⟩ := text_prefix_iff.mp hp'
  have hnumbers : (t.dropWhile (!isBlank ·)).dropWhile isBlank = p.numbers.text ++ rest := by
    have hparts : p.name ++ (p.gap ++ (p.numbers.text ++ rest)) = t := by
      simpa [text] using ht
    have hcut : p.name ++ (p.gap ++ (t.dropWhile (!isBlank ·)).dropWhile isBlank) = t := by
      rw [hname, hgap, List.takeWhile_append_dropWhile, List.takeWhile_append_dropWhile]
    exact List.append_cancel_left (List.append_cancel_left (hcut.trans hparts.symm))
  rw [hnumbers] at hnumbers'
  exact (hdots.longest hend).2 _ hnumbers'

lemma Longest.dotted (h : p.Longest s) (hdots : p.numbers.IsDotted) : p.Dotted s := by
  obtain ⟨⟨rest, rfl⟩, hlongest⟩ := h
  refine ⟨hdots, rest, rfl, fun d hd => ?_⟩
  obtain ⟨rest, rfl⟩ := List.head?_eq_some_iff.mp hd
  by_contra hdigit
  let longer : Triple :=
    { p.numbers with
      patch := p.numbers.patch ++ [d]
      patch_run := ⟨by simp, List.forall_mem_append.mpr ⟨p.numbers.patch_run.2, by simpa using hdigit⟩⟩ }
  have hle := hlongest { p with numbers := longer } ⟨rest, by simp [text, Triple.text, longer]⟩
  have hpatch := (Prod.Lex.toLex_le_toLex'.mp ((Prod.Lex.toLex_le_toLex'.mp hle).2 rfl)).2 rfl
  simp only [longer, List.length_append, List.length_singleton] at hpatch
  omega

end Spelling

lemma readUInt64?_eq_some_iff {u : UInt64} (h : IsRun s) : readUInt64? s = some u ↔ Writes s u :=
  readUInt64?_eq_some_iff_of_not_mem h.1 fun hplus => absurd (h.2 '+' hplus) (by decide)

lemma versionOf_of_first {output : String} {lines : List Char} (h : FirstSpelled output.toList lines)
    {p : Spelling} (hp : p.Longest lines) :
    (∀ v, versionOf output = .ok v ↔ p.numbers.Tells v) ∧
      ((∀ v, ¬ p.numbers.Tells v) →
        versionOf output = .error (.invalidVersion (String.ofList p.text))) := by
  have htells : ∀ v, p.numbers.Tells v ↔ ∃ major minor patch, v = .release major minor patch ∧
      readUInt64? p.numbers.major = some major ∧ readUInt64? p.numbers.minor = some minor ∧
      readUInt64? p.numbers.patch = some patch := by
    simp only [Triple.Tells, readUInt64?_eq_some_iff p.numbers.major_run,
      readUInt64?_eq_some_iff p.numbers.minor_run, readUInt64?_eq_some_iff p.numbers.patch_run, implies_true]
  rw [versionOf, mention?_of_firstSpelled h hp]
  dsimp only [Spelling.mention]
  split
  · next major minor patch hmajor hminor hpatch =>
    refine ⟨fun v => ?_, fun hnone => ?_⟩
    · rw [htells, hmajor, hminor, hpatch]
      constructor
      · rintro ⟨⟩
        exact ⟨major, minor, patch, rfl, rfl, rfl, rfl⟩
      · rintro ⟨_, _, _, rfl, ⟨⟩, ⟨⟩, ⟨⟩⟩
        rfl
    · exact absurd ((htells _).mpr ⟨major, minor, patch, rfl, hmajor, hminor, hpatch⟩) (hnone _)
  · next hnone =>
    refine ⟨fun v => iff_of_false (by simp) fun hv => ?_, fun _ => rfl⟩
    obtain ⟨major, minor, patch, -, hmajor, hminor, hpatch⟩ := (htells v).mp hv
    exact hnone major minor patch hmajor hminor hpatch

lemma versionOf_of_none {output : String} (h : ∀ lines, ¬ FirstSpelled output.toList lines) :
    versionOf output = .error (.invalidVersion output) := by
  cases hm : mention? output.toList with
  | none => rw [versionOf, hm]
  | some m =>
    obtain ⟨lines, p, hfirst, -, -⟩ := mention?_some hm
    exact absurd hfirst (h lines)

end Told

section Version

variable {n : Node σ}

lemma tell_fst (result : ExecutionResult) (s : NodeState σ) (hcode : result.exitCode = 0) :
    (tell n result s).1 = versionOf result.stdout := by
  have hsuccess : result.requireSuccess (trimmed result.stderr) = .ok result := if_pos hcode
  rw [tell, hsuccess, bind_of_ok (liftM_apply _ s)]
  cases hversion : versionOf result.stdout <;> rfl

def Obtained (n : Node σ) (result : ExecutionResult) (xs : List Exchange) : Prop :=
  xs = [] ∨ ∃ ys x output, xs = ys ++ [x] ∧ n.lineOf readAsk = .ok x.request.command ∧
    x.answer = .ok output ∧ result.stdout = trimmed output.stdout

/-- Whatever the command prints, the version is what the first spelling tells at the start of a line, with
the longest runs. Where dots separate whole runs there, these are told; another character can stand in
their place. -/
theorem version_of_first_spelling (n : Node σ) {s t : NodeState σ} {result : ExecutionResult}
    (hrun : n.executeCached "kexec -v" quietRoot s = (.ok result, t)) (hcode : result.exitCode = 0) :
    let told := (version n s).1
    let output := result.stdout.toList
    Obtained n result (n.exchanges s t) ∧
    ((∀ lines, ¬ FirstSpelled output lines) → told = .error (.invalidVersion result.stdout)) ∧
    ∀ lines, FirstSpelled output lines → ∃ p : Spelling, p.Longest lines ∧
      (∀ v, told = .ok v ↔ p.numbers.Tells v) ∧
      ((∀ v, ¬ p.numbers.Tells v) → told = .error (.invalidVersion (String.ofList p.text))) ∧
      (∀ q : Spelling, q.Dotted lines → ∀ v, told = .ok v ↔ q.numbers.Tells v) ∧
      ∀ v, (told = .ok v ∧ ∀ q : Spelling, ¬ q.Dotted lines) ↔
        p.numbers.Tells v ∧ ¬ p.numbers.IsDotted := by
  intro told output
  have htold : told = versionOf result.stdout := by
    change (version n s).1 = _
    rw [version_eq, bind_of_ok hrun]
    exact tell_fst result t hcode
  refine ⟨?_, fun hnone => htold.trans (versionOf_of_none hnone), fun lines hfirst => ?_⟩
  · have hask : quietRoot.ask "kexec -v" ∈ [readAsk] := List.mem_singleton_self _
    obtain ⟨-, xs, hleads, -, hlast⟩ := Node.emits_executeCached (n := n) hask s
    rw [hrun] at hleads hlast
    have hxs : n.exchanges s t = xs := hleads.exchanges_eq
    rw [hxs]
    obtain ⟨-, hstored⟩ | ⟨ys, x, hend, hx⟩ := hlast result rfl
    · exact .inl hstored
    · obtain ⟨answer, hanswer, rfl⟩ := hx.answer
      exact .inr ⟨ys, x, answer, hend, hx.line, hanswer, rfl⟩
  · obtain ⟨q, hq⟩ := hfirst.spelled
    obtain ⟨p, hp⟩ := exists_longest hq
    obtain ⟨htells, hrefused⟩ := versionOf_of_first hfirst hp
    refine ⟨p, hp, fun v => htold ▸ htells v, fun hnone => htold.trans (hrefused hnone),
      fun q hq v => ?_, fun v => ?_⟩
    · rw [Spelling.eq_of_longest hq.longest hp, htold]
      exact htells v
    · rw [htold, htells]
      refine and_congr_right fun _ => ⟨fun hnone hdots => hnone p (hp.dotted hdots), fun hdots q hq => ?_⟩
      exact hdots (Spelling.eq_of_longest hq.longest hp ▸ hq.1)

def printing (output : String) : Node Unit :=
  .replying fun line => ⟨0, if line = "sudo kexec -v" then output else "", ""⟩

theorem version_of_first_spelling_release :
    (version (printing "kexec-tools 2.0.16\n") { machine := () }).1 = .ok (.release 2 0 16) := by
  let result : ExecutionResult := ⟨"sudo kexec -v", 0, "kexec-tools 2.0.16", ""⟩
  have hrun : (printing "kexec-tools 2.0.16\n").executeCached "kexec -v" quietRoot { machine := () } =
      (.ok result, _) := Prod.ext (by decide +kernel) rfl
  let spelled : Spelling :=
    { name := "-tools".toList
      gap := [' ']
      numbers := ⟨['2'], '.', ['0'], '.', ['1', '6'], by decide, by decide, by decide, by decide, by decide⟩
      name_ne := by decide
      name_blank := unmarked_of_any (by decide)
      gap_ne := by decide
      gap_blank := List.all_eq_true.mp (by decide) }
  have hdotted : spelled.Dotted result.stdout.toList := ⟨⟨rfl, rfl⟩, [], by decide, nofun⟩
  have hfirst : FirstSpelled result.stdout.toList result.stdout.toList := by
    refine ⟨⟨[], rfl, .inl rfl⟩, ⟨spelled, hdotted.longest.1⟩, fun front lines heq _ hlength => ?_⟩
    rw [heq, List.length_append] at hlength
    omega
  obtain ⟨p, -, -, -, htells, -⟩ := (version_of_first_spelling (printing "kexec-tools 2.0.16\n") hrun
    rfl).2.2 _ hfirst
  refine (htells spelled hdotted _).mpr ⟨2, 0, 16, rfl, ⟨?_, rfl⟩, ⟨?_, rfl⟩, ⟨?_, rfl⟩⟩
  all_goals exact List.all_eq_true.mp (by decide)

/-- A date is told as a version, although there is no dot in what was printed. -/
theorem date_is_told_as_version :
    let output := "kexec-tools 20160417"
    (version (printing output) { machine := () }).1 = .ok (.release 2016 4 7) ∧ '.' ∉ output.toList := by
  decide +kernel

end Version

end HostProbe.Kexec
