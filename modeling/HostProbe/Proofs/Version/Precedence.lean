import HostProbe.Proofs.Version.Semantic

/-! The precedence of semantic versions, and where the order of the versions that are read from their
written forms departs from it. Numbers of more than 64 bits are compared with one another and with names
as texts, so that the order departs exactly where the texts and the values disagree. -/

namespace HostProbe.Version

open HostProbe.Text HostProbe.Decimal

namespace Identifier

/-- Numbers are compared by value and stand below all names; names are compared by their characters. -/
def precedence : Identifier → Identifier → Ordering
  | .numeric m, .numeric n => compare m n
  | .numeric _, .named _ _ => .lt
  | .named _ _, .numeric _ => .gt
  | .named s _, .named t _ => compare s t

def IsText : Identifier → Prop
  | .numeric n => UInt64.size ≤ n
  | .named _ _ => True

/-- Two identifiers, of which the characters tell another order than the precedence, are compared by
their characters. -/
def Misranked (p q : Identifier) : Prop :=
  p.IsText ∧ q.IsText ∧ compare p.text q.text ≠ p.precedence q

variable {p q : Identifier}

lemma readUInt64?_text_of_isText (h : p.IsText) : readUInt64? p.text = none := by
  cases p with
  | numeric n => rw [text, readUInt64?_toDigits, if_neg (Nat.not_lt.mpr h)]
  | named s hs =>
    obtain ⟨c, hc, hdigit⟩ := hs.letter
    refine readUInt64?_eq_none (fun hplus => ?_) hc hdigit
    exact absurd (hs.chars _ hplus) (by decide)

lemma exists_numeric_of_not_isText (h : ¬ p.IsText) : ∃ n < UInt64.size, p = .numeric n := by
  cases p with
  | numeric n => exact ⟨n, Nat.not_le.mp h, rfl⟩
  | named s hs => exact absurd trivial h

lemma compare_ofNat {m n : Nat} (hm : m < UInt64.size) (hn : n < UInt64.size) :
    compare (UInt64.ofNat m) (UInt64.ofNat n) = compare m n := by
  rw [UInt64.compare_eq_toNat_compare_toNat, UInt64.toNat_ofNat_of_lt' hm, UInt64.toNat_ofNat_of_lt' hn]

lemma compareIdentifier_of_isText (hp : p.IsText) (hq : q.IsText) :
    compareIdentifier p.text q.text = compare p.text q.text := by
  rw [compareIdentifier, readUInt64?_text_of_isText hp, readUInt64?_text_of_isText hq]

lemma compareIdentifier_of_not_isText (h : ¬ (p.IsText ∧ q.IsText)) :
    compareIdentifier p.text q.text = p.precedence q := by
  by_cases hp : p.IsText
  · obtain ⟨n, hn, rfl⟩ := exists_numeric_of_not_isText fun hq => h ⟨hp, hq⟩
    rw [compareIdentifier, readUInt64?_text_of_isText hp, text, readUInt64?_toDigits, if_pos hn]
    cases p with
    | numeric m => exact (Nat.compare_eq_gt.mpr (Nat.lt_of_lt_of_le hn hp)).symm
    | named s hs => rfl
  · obtain ⟨m, hm, rfl⟩ := exists_numeric_of_not_isText hp
    by_cases hq : q.IsText
    · rw [compareIdentifier, readUInt64?_text_of_isText hq, text, readUInt64?_toDigits, if_pos hm]
      cases q with
      | numeric n => exact (Nat.compare_eq_lt.mpr (Nat.lt_of_lt_of_le hm hq)).symm
      | named s hs => rfl
    · obtain ⟨n, hn, rfl⟩ := exists_numeric_of_not_isText hq
      rw [compareIdentifier, text, text, readUInt64?_toDigits, readUInt64?_toDigits, if_pos hm,
        if_pos hn]
      exact compare_ofNat hm hn

lemma compareIdentifier_eq_precedence_iff :
    compareIdentifier p.text q.text = p.precedence q ↔ ¬ p.Misranked q := by
  by_cases h : p.IsText ∧ q.IsText
  · rw [compareIdentifier_of_isText h.1 h.2]
    simp [Misranked, h]
  · exact iff_of_true (compareIdentifier_of_not_isText h) fun hm => h ⟨hm.1, hm.2.1⟩

lemma toDigits_ne_name {n : Nat} {s : List Char} (hs : IsName s) : Nat.toDigits 10 n ≠ s := by
  rintro rfl
  obtain ⟨c, hc, hdigit⟩ := hs.letter
  exact absurd (isAsciiDigit_of_mem_toDigits hc) (by simp [hdigit])

lemma text_inj : p.text = q.text ↔ p = q := by
  constructor
  · intro h
    cases p <;> cases q
    case numeric.numeric m n =>
      have hvalue := congrArg (Nat.ofDigitChars 10 · 0) h
      simp only [text, Nat.ofDigitChars_ten_toDigits] at hvalue
      rw [hvalue]
    case numeric.named m t ht => exact absurd h (toDigits_ne_name ht)
    case named.numeric s hs n => exact absurd h.symm (toDigits_ne_name hs)
    case named.named s hs t ht =>
      cases (h : s = t)
      rfl
  · rintro rfl
    rfl

lemma precedence_eq_eq_iff : p.precedence q = .eq ↔ p = q := by
  cases p <;> cases q <;> simp [precedence]

lemma compareIdentifier_eq_eq_iff : compareIdentifier p.text q.text = .eq ↔ p = q := by
  by_cases h : p.IsText ∧ q.IsText
  · rw [compareIdentifier_of_isText h.1 h.2, Std.LawfulEqOrd.compare_eq_iff_eq, text_inj]
  · rw [compareIdentifier_of_not_isText h, precedence_eq_eq_iff]

end Identifier

section Lists

variable {α : Type} {f g : α → α → Ordering}

lemma compareLex_map (f : List Char → List Char → Ordering) (h : α → List Char) (xs ys : List α) :
    List.compareLex f (xs.map h) (ys.map h) = List.compareLex (fun x y => f (h x) (h y)) xs ys := by
  induction xs generalizing ys with
  | nil => cases ys <;> rfl
  | cons x xs ih =>
    cases ys with
    | nil => rfl
    | cons y ys => simp only [List.map_cons, List.compareLex_cons_cons, ih]

lemma exists_split_cons_iff {P : α → α → Prop} {x y : α} {xs ys : List α} :
    (∃ shared z w xs' ys', x :: xs = shared ++ z :: xs' ∧ y :: ys = shared ++ w :: ys' ∧ P z w) ↔
      P x y ∨ x = y ∧ ∃ shared z w xs' ys', xs = shared ++ z :: xs' ∧ ys = shared ++ w :: ys' ∧ P z w := by
  constructor
  · rintro ⟨shared, z, w, xs', ys', hxs, hys, hP⟩
    cases shared with
    | nil =>
      cases hxs
      cases hys
      exact .inl hP
    | cons u shared =>
      cases hxs
      cases hys
      exact .inr ⟨rfl, shared, z, w, xs', ys', rfl, rfl, hP⟩
  · rintro (hP | ⟨rfl, shared, z, w, xs', ys', rfl, rfl, hP⟩)
    · exact ⟨[], x, y, xs, ys, rfl, rfl, hP⟩
    · exact ⟨x :: shared, z, w, xs', ys', rfl, rfl, hP⟩

lemma compareLex_eq_iff (hf : ∀ x y, f x y = .eq ↔ x = y) (hg : ∀ x y, g x y = .eq ↔ x = y)
    (xs ys : List α) : List.compareLex f xs ys = List.compareLex g xs ys ↔
      ¬ ∃ shared x y xs' ys', xs = shared ++ x :: xs' ∧ ys = shared ++ y :: ys' ∧ f x y ≠ g x y := by
  induction xs generalizing ys with
  | nil =>
    refine iff_of_true (by cases ys <;> rfl) ?_
    rintro ⟨shared, x, y, xs', ys', hxs, -⟩
    simp at hxs
  | cons x xs ih =>
    cases ys with
    | nil =>
      refine iff_of_true rfl ?_
      rintro ⟨shared, x, y, xs', ys', -, hys, -⟩
      simp at hys
    | cons y ys =>
      rw [List.compareLex_cons_cons, List.compareLex_cons_cons, exists_split_cons_iff]
      by_cases hxy : x = y
      · subst hxy
        rw [(hf x x).mpr rfl, (hg x x).mpr rfl, Ordering.eq_then, Ordering.eq_then, ih]
        simp
      · have hthen : ∀ o o' r r' : Ordering, o ≠ .eq → o' ≠ .eq → (o.then r = o'.then r' ↔ o = o') := by
          decide
        rw [hthen _ _ _ _ (mt (hf x y).mp hxy) (mt (hg x y).mp hxy)]
        simp [hxy]

end Lists

namespace Semantic

def prereleasePrecedence : List Identifier → List Identifier → Ordering
  | [], [] => .eq
  | [], _ :: _ => .gt
  | _ :: _, [] => .lt
  | ps, qs => List.compareLex Identifier.precedence ps qs

def precedence (a b : Semantic) : Ordering :=
  (compare a.major b.major).then <| (compare a.minor b.minor).then <|
    (compare a.patch b.patch).then <| prereleasePrecedence a.prerelease b.prerelease

def Misranked (a b : Semantic) : Prop :=
  a.major = b.major ∧ a.minor = b.minor ∧ a.patch = b.patch ∧
    ∃ shared p q ps qs, a.prerelease = shared ++ p :: ps ∧ b.prerelease = shared ++ q :: qs ∧
      p.Misranked q

variable {a b : Semantic}

lemma identifiers_intercalate {ps : List Identifier} (h : ps ≠ []) :
    identifiers (String.ofList (['.'].intercalate (ps.map Identifier.text))) =
      ps.map Identifier.text := by
  rw [identifiers, String.toList_ofList]
  refine splitAt_intercalate (fun part hpart hdot => ?_) (by simpa using h)
  obtain ⟨p, -, rfl⟩ := List.mem_map.mp hpart
  exact absurd (isIdentifierChar_of_mem_text hdot) (by decide)

lemma comparePrerelease_eq_iff (ps qs : List Identifier) :
    comparePrerelease ((joined (ps.map Identifier.text)).map String.ofList)
        ((joined (qs.map Identifier.text)).map String.ofList) = prereleasePrecedence ps qs ↔
      ¬ ∃ shared p q ps' qs', ps = shared ++ p :: ps' ∧ qs = shared ++ q :: qs' ∧ p.Misranked q := by
  cases ps with
  | nil => exact iff_of_true (by cases qs <;> rfl) (by simp)
  | cons p ps =>
    cases qs with
    | nil => exact iff_of_true rfl (by simp)
    | cons q qs =>
      change List.compareLex compareIdentifier (identifiers _) (identifiers _) =
        List.compareLex Identifier.precedence (p :: ps) (q :: qs) ↔ _
      rw [identifiers_intercalate (List.cons_ne_nil _ _), identifiers_intercalate (List.cons_ne_nil _ _),
        compareLex_map, compareLex_eq_iff (fun _ _ => Identifier.compareIdentifier_eq_eq_iff)
          fun _ _ => Identifier.precedence_eq_eq_iff]
      simp only [ne_eq, Identifier.compareIdentifier_eq_precedence_iff, not_not]

lemma eq_version_of_parse {v : Version} (h : parse (String.ofList a.text) = .ok v) :
    a.Fits ∧ v = a.version := by
  rw [parse_text] at h
  split at h
  · next hfits =>
    cases h
    exact ⟨hfits, rfl⟩
  · cases h

lemma then_eq_then_iff {o r r' : Ordering} : o.then r = o.then r' ↔ (o = .eq → r = r') := by
  cases o <;> simp

/-- The order of two versions that were read from semantic versions is their precedence, unless the first
identifiers that differ have no values of 64 bits, one of them at least is a number, and their characters
tell another order. -/
theorem compare_eq_precedence_iff {v w : Version} (hv : parse (String.ofList a.text) = .ok v)
    (hw : parse (String.ofList b.text) = .ok w) : v.compare w = a.precedence b ↔ ¬ a.Misranked b := by
  obtain ⟨⟨hmajor, hminor, hpatch⟩, rfl⟩ := eq_version_of_parse hv
  obtain ⟨⟨hmajor', hminor', hpatch'⟩, rfl⟩ := eq_version_of_parse hw
  rw [Version.compare, version, version, precedence, Identifier.compare_ofNat hmajor hmajor',
    Identifier.compare_ofNat hminor hminor', Identifier.compare_ofNat hpatch hpatch']
  simp only [then_eq_then_iff, Nat.compare_eq_eq, comparePrerelease_eq_iff]
  rw [Misranked, not_and, not_and, not_and]

theorem compare_eq_precedence_iff_of_long_numbers :
    let rc := Identifier.named "rc".toList ⟨List.all_eq_true.mp (by decide), 'r', by decide, by decide⟩
    let a : Semantic := ⟨1, 0, 0, [rc, .numeric 18446744073709551616], []⟩
    let b : Semantic := ⟨1, 0, 0, [rc, .numeric 18446744073709551617, rc], [⟨"x".toList, by decide⟩]⟩
    String.ofList a.text = "1.0.0-rc.18446744073709551616" ∧
      String.ofList b.text = "1.0.0-rc.18446744073709551617.rc+x" ∧
      a.version.compare b.version = a.precedence b := by
  intro rc a b
  have ha : parse (String.ofList a.text) = .ok a.version := by decide +kernel
  have hb : parse (String.ofList b.text) = .ok b.version := by decide +kernel
  refine ⟨by decide +kernel, by decide +kernel, (compare_eq_precedence_iff ha hb).mpr ?_⟩
  rintro ⟨-, -, -, shared, p, q, ps, qs, hps, hqs, -, -, hne⟩
  obtain _ | ⟨r, _ | ⟨r', shared⟩⟩ := shared
  · cases hps
    cases hqs
    exact hne (by decide +kernel)
  · cases hps
    cases hqs
    exact hne (by decide +kernel)
  · simp [a] at hps

/-- The greater of two numbers of more than 64 bits comes first where its digits do. -/
theorem long_numbers_compare_as_text :
    let a : Semantic := ⟨1, 0, 0, [.numeric 99999999999999999999], []⟩
    let b : Semantic := ⟨1, 0, 0, [.numeric 100000000000000000000], []⟩
    String.ofList a.text = "1.0.0-99999999999999999999" ∧
      String.ofList b.text = "1.0.0-100000000000000000000" ∧
      parse (String.ofList a.text) = .ok a.version ∧ parse (String.ofList b.text) = .ok b.version ∧
      a.version.compare b.version = .gt ∧ a.precedence b = .lt := by
  decide +kernel

end Semantic

end HostProbe.Version
