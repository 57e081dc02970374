import HostProbe.Proofs.Text.Pieces
import HostProbe.Version.Lenient
import Mathlib

/-! Semantic versions as their grammar has them, with numbers and identifiers of any size. The written
form of one is read exactly if its three numbers have 64 bits; its identifiers are then kept as texts.
Nothing else is read strictly. -/

namespace HostProbe.Version

open HostProbe.Text HostProbe.Decimal

structure IsName (s : List Char) : Prop where
  chars : ∀ c ∈ s, isIdentifierChar c = true
  letter : ∃ c ∈ s, isAsciiDigit c = false

inductive Identifier where
  | numeric (n : Nat)
  | named (s : List Char) (h : IsName s)

def Identifier.text : Identifier → List Char
  | .numeric n => Nat.toDigits 10 n
  | .named s _ => s

structure Semantic where
  major : Nat
  minor : Nat
  patch : Nat
  prerelease : List Identifier := []
  build : List { s : List Char // isBuildIdentifier s = true } := []

def joined : List (List Char) → Option (List Char)
  | [] => none
  | parts => some (['.'].intercalate parts)

def listed (mark : Char) (parts : List (List Char)) : List Char :=
  match joined parts with
  | none => []
  | some s => mark :: s

namespace Semantic

variable (a : Semantic)

def core : List Char := ['.'].intercalate ([a.major, a.minor, a.patch].map (Nat.toDigits 10))

def front : List Char := a.core ++ listed '-' (a.prerelease.map Identifier.text)

def text : List Char := a.front ++ listed '+' (a.build.map Subtype.val)

def Fits : Prop := a.major < UInt64.size ∧ a.minor < UInt64.size ∧ a.patch < UInt64.size

instance : Decidable a.Fits := inferInstanceAs (Decidable (_ ∧ _))

def version : Version where
  major := .ofNat a.major
  minor := .ofNat a.minor
  patch := .ofNat a.patch
  prerelease := (joined (a.prerelease.map Identifier.text)).map String.ofList
  build := (joined (a.build.map Subtype.val)).map String.ofList

end Semantic

section Chars

variable {c : Char}

lemma isIdentifierChar_iff : isIdentifierChar c = true ↔ ((65 ≤ c.toNat ∧ c.toNat ≤ 90) ∨
    (97 ≤ c.toNat ∧ c.toNat ≤ 122)) ∨ (48 ≤ c.toNat ∧ c.toNat ≤ 57) ∨ c = '-' := by
  rw [isIdentifierChar, Bool.or_eq_true, isAlphanum_iff, beq_iff_eq, or_assoc]

lemma isIdentifierChar_of_isAsciiDigit (h : isAsciiDigit c = true) : isIdentifierChar c = true :=
  isIdentifierChar_iff.mpr (.inr (.inl (isAsciiDigit_iff.mp h)))

lemma isIdentifierChar_of_mem_text {p : Identifier} (h : c ∈ p.text) : isIdentifierChar c = true := by
  cases p with
  | numeric n => exact isIdentifierChar_of_isAsciiDigit (isAsciiDigit_of_mem_toDigits h)
  | named s hs => exact hs.chars c h

lemma isBlank_eq_false (h : isIdentifierChar c = true ∨ c = '.' ∨ c = '+') : isBlank c = false := by
  have hcode : c.toNat = 43 ∨ c.toNat = 45 ∨ c.toNat = 46 ∨ (48 ≤ c.toNat ∧ c.toNat ≤ 122) := by
    rcases h with h | rfl | rfl
    · rcases isIdentifierChar_iff.mp h with h | h | rfl
      · omega
      · omega
      · decide
    · decide
    · decide
  exact isBlank_of_range (by omega) (by omega)

end Chars

section Joined

variable {c mark : Char} {front : List Char} {parts : List (List Char)}

lemma mem_listed (h : c ∈ listed mark parts) : c = mark ∨ c = '.' ∨ ∃ part ∈ parts, c ∈ part := by
  cases parts with
  | nil => cases h
  | cons part parts => exact (List.mem_cons.mp h).imp_right mem_intercalate

lemma cutAt_listed (h : mark ∉ front) :
    cutAt mark (front ++ listed mark parts) = (front, joined parts) := by
  cases parts with
  | nil =>
    rw [cutAt, listed, joined, List.append_nil, splitOnce?_eq_none h]
  | cons part parts =>
    rw [cutAt, listed, joined, splitOnce?_append h]
    simp

lemma dotted_joined {p : List Char → Bool} (h : ∀ part ∈ parts, '.' ∉ part) :
    dotted p (joined parts) = parts.all p := by
  cases parts with
  | nil => rfl
  | cons part parts =>
    rw [joined, dotted, splitAt_intercalate h (List.cons_ne_nil _ _)]
    simp

lemma eq_append_of_cutAt {mark : Char} {s front : List Char} {parts : List (List Char)}
    (h : cutAt mark s = (front, joined parts)) : s = front ++ listed mark parts := by
  rw [cutAt] at h
  split at h
  · next a b hcut =>
    obtain ⟨rfl, hb⟩ := Prod.mk.inj h
    rw [listed, ← hb, eq_append_of_splitOnce? hcut, List.append_assoc]
    rfl
  · obtain ⟨rfl, hnone⟩ := Prod.mk.inj h
    rw [listed, ← hnone, List.append_nil]

lemma exists_joined_of_dotted {p : List Char → Bool} {s : Option (List Char)} (h : dotted p s = true) :
    ∃ parts, s = joined parts ∧ ∀ part ∈ parts, p part = true := by
  cases s with
  | none => exact ⟨[], rfl, nofun⟩
  | some s =>
    refine ⟨splitAt '.' s, ?_, List.all_eq_true.mp h⟩
    rw [splitAt_eq_splitOn]
    obtain ⟨part, parts, hparts⟩ := List.exists_cons_of_ne_nil (List.splitOn_ne_nil '.' s)
    have hs : ['.'].intercalate (s.splitOn '.') = s := List.intercalate_splitOn '.'
    rw [hparts] at hs ⊢
    exact congrArg some hs.symm

lemma head?_listed (mark : Char) (parts : List (List Char)) :
    ∀ c ∈ (listed mark parts).head?, c = mark := by
  cases parts with
  | nil => nofun
  | cons part parts =>
    rintro c ⟨⟩
    rfl

end Joined

section Number

lemma digitChar_ne_zero : ∀ d < 10, 0 < d → Nat.digitChar d ≠ '0' := by decide

lemma head?_toDigits {n : Nat} (hn : 0 < n) : (Nat.toDigits 10 n).head? ≠ some '0' := by
  induction n using Nat.strongRecOn with
  | _ n ih =>
    rw [Nat.toDigits_eq_if (by decide)]
    split
    · next hlt =>
      simpa using digitChar_ne_zero n hlt hn
    · next hge =>
      have hfirst := ih (n / 10) (by omega) (by omega)
      cases hdigits : Nat.toDigits 10 (n / 10) with
      | nil => exact absurd hdigits Nat.toDigits_ne_nil
      | cons c cs =>
        rw [hdigits] at hfirst
        exact hfirst

lemma isPlainNumber_toDigits (n : Nat) : isPlainNumber (Nat.toDigits 10 n) = true := by
  have hdigits : (Nat.toDigits 10 n).all isAsciiDigit = true :=
    List.all_eq_true.mpr fun c => isAsciiDigit_of_mem_toDigits
  rcases Nat.eq_zero_or_pos n with rfl | hn
  · decide
  · simp [isPlainNumber, hdigits, Nat.toDigits_ne_nil, head?_toDigits hn]

lemma plainNumber?_toDigits (n : Nat) :
    plainNumber? (Nat.toDigits 10 n) = if n < UInt64.size then some (.ofNat n) else none := by
  rw [plainNumber?, if_pos (isPlainNumber_toDigits n), readUInt64?_toDigits]

lemma isPlainNumber_iff {s : List Char} : isPlainNumber s = true ↔
    s ≠ [] ∧ (∀ c ∈ s, isAsciiDigit c = true) ∧ (s.length = 1 ∨ s.head? ≠ some '0') := by
  simp [isPlainNumber, and_assoc]

lemma toDigits_ofDigits {s : List Char} (h : isPlainNumber s = true) : Nat.toDigits 10 (ofDigits s) = s := by
  -- On the last digit: what stands before it is zero only where nothing does.
  induction s using List.reverseRecOn with
  | nil => cases h
  | append_singleton front c ih =>
    obtain ⟨-, hdigits, hfirst⟩ := isPlainNumber_iff.mp h
    have hc : isAsciiDigit c = true := hdigits c (by simp)
    have hlast : Nat.toDigits 10 (digitValue c) = [c] := by
      rw [Nat.toDigits_of_lt_base (digitValue_lt hc), digitChar_digitValue hc]
    rw [ofDigits_concat]
    cases front with
    | nil => simpa [ofDigits] using hlast
    | cons d front =>
      have hd : d ≠ '0' := by simpa using hfirst
      have hplain : isPlainNumber (d :: front) = true :=
        isPlainNumber_iff.mpr ⟨List.cons_ne_nil _ _, fun e he => hdigits e (List.mem_append_left _ he),
          .inr (by simpa using hd)⟩
      have hpos : 0 < ofDigits (d :: front) := by
        refine Nat.pos_of_ne_zero fun hzero => hd ?_
        have hdigit := ih hplain
        rw [hzero, Nat.toDigits_zero] at hdigit
        exact (List.cons.inj hdigit).1.symm
      rw [← Nat.toDigits_append_toDigits (by decide) hpos (digitValue_lt hc), ih hplain, hlast]

lemma plainNumber?_eq_some {s : List Char} {n : UInt64} (h : plainNumber? s = some n) :
    ∃ m < UInt64.size, s = Nat.toDigits 10 m ∧ n = .ofNat m := by
  have hplain : isPlainNumber s = true := by
    by_contra hnot
    rw [plainNumber?, if_neg hnot] at h
    cases h
  have hs := toDigits_ofDigits hplain
  rw [← hs, plainNumber?_toDigits] at h
  split at h
  · next hlt => exact ⟨_, hlt, hs.symm, (Option.some.inj h).symm⟩
  · cases h

end Number

namespace Identifier

variable (p : Identifier)

lemma text_ne_nil : p.text ≠ [] := by
  cases p with
  | numeric n => exact Nat.toDigits_ne_nil
  | named s hs =>
    obtain ⟨c, hc, -⟩ := hs.letter
    exact List.ne_nil_of_mem hc

lemma isPrereleaseIdentifier_text : isPrereleaseIdentifier p.text = true := by
  have hchars : p.text.all isIdentifierChar = true :=
    List.all_eq_true.mpr fun c => isIdentifierChar_of_mem_text
  have hnumber : (!p.text.all isAsciiDigit || isPlainNumber p.text) = true := by
    cases p with
    | numeric n => simp [text, isPlainNumber_toDigits]
    | named s hs =>
      obtain ⟨c, hc, hdigit⟩ := hs.letter
      have hnot : s.all isAsciiDigit = false := List.all_eq_false.mpr ⟨c, hc, by simp [hdigit]⟩
      simp [text, hnot]
  rw [isPrereleaseIdentifier, isBuildIdentifier, hchars, hnumber]
  simp [text_ne_nil]

end Identifier

lemma Identifier.exists_text_eq {s : List Char} (h : isPrereleaseIdentifier s = true) :
    ∃ p : Identifier, p.text = s := by
  rw [isPrereleaseIdentifier, isBuildIdentifier, Bool.and_eq_true, Bool.and_eq_true] at h
  obtain ⟨⟨-, hchars⟩, hnumber⟩ := h
  by_cases hdigits : s.all isAsciiDigit = true
  · have hplain : isPlainNumber s = true := by simpa [hdigits] using hnumber
    exact ⟨.numeric (ofDigits s), toDigits_ofDigits hplain⟩
  · obtain ⟨c, hc, hletter⟩ := List.all_eq_false.mp (Bool.eq_false_of_not_eq_true hdigits)
    exact ⟨.named s ⟨List.all_eq_true.mp hchars, c, hc, Bool.eq_false_of_not_eq_true hletter⟩, rfl⟩

namespace Semantic

variable {a : Semantic} {c : Char}

lemma mem_core (h : c ∈ a.core) : c = '.' ∨ isAsciiDigit c = true := by
  refine (mem_intercalate h).imp_right ?_
  rintro ⟨part, hpart, hc⟩
  obtain ⟨n, -, rfl⟩ := List.mem_map.mp hpart
  exact isAsciiDigit_of_mem_toDigits hc

lemma mem_front (h : c ∈ a.front) : isIdentifierChar c = true ∨ c = '.' := by
  rcases List.mem_append.mp h with h | h
  · exact (mem_core h).symm.imp_left isIdentifierChar_of_isAsciiDigit
  · rcases mem_listed h with rfl | rfl | ⟨part, hpart, hc⟩
    · exact .inl rfl
    · exact .inr rfl
    · obtain ⟨p, -, rfl⟩ := List.mem_map.mp hpart
      exact .inl (isIdentifierChar_of_mem_text hc)

lemma mem_text (h : c ∈ a.text) : isIdentifierChar c = true ∨ c = '.' ∨ c = '+' := by
  rcases List.mem_append.mp h with h | h
  · exact (mem_front h).imp_right .inl
  · rcases mem_listed h with rfl | rfl | ⟨part, hpart, hc⟩
    · exact .inr (.inr rfl)
    · exact .inr (.inl rfl)
    · obtain ⟨⟨s, hs⟩, -, rfl⟩ := List.mem_map.mp hpart
      rw [isBuildIdentifier, Bool.and_eq_true, List.all_eq_true] at hs
      exact .inl (hs.2 c hc)

variable (a)

lemma dotted_prerelease :
    dotted isPrereleaseIdentifier (joined (a.prerelease.map Identifier.text)) = true := by
  rw [dotted_joined]
  · simp [Identifier.isPrereleaseIdentifier_text]
  · rintro part hpart hdot
    obtain ⟨p, -, rfl⟩ := List.mem_map.mp hpart
    exact absurd (isIdentifierChar_of_mem_text hdot) (by decide)

lemma dotted_build : dotted isBuildIdentifier (joined (a.build.map Subtype.val)) = true := by
  have hbuild : ∀ part ∈ a.build.map Subtype.val, isBuildIdentifier part = true := by
    rintro part hpart
    obtain ⟨s, -, rfl⟩ := List.mem_map.mp hpart
    exact s.2
  rw [dotted_joined, List.all_eq_true]
  · exact hbuild
  · intro part hpart hdot
    have hchars := hbuild part hpart
    rw [isBuildIdentifier, Bool.and_eq_true, List.all_eq_true] at hchars
    exact absurd (hchars.2 _ hdot) (by decide)

lemma splitAt_core : splitAt '.' a.core = [a.major, a.minor, a.patch].map (Nat.toDigits 10) := by
  refine splitAt_intercalate (fun part hpart hdot => ?_) (List.cons_ne_nil _ _)
  obtain ⟨n, -, rfl⟩ := List.mem_map.mp hpart
  exact absurd (isAsciiDigit_of_mem_toDigits hdot) (by decide)

lemma parseStrict?_text : parseStrict? a.text = if a.Fits then some a.version else none := by
  have hplus : '+' ∉ a.front := fun h => by rcases mem_front h with h | h <;> exact absurd h (by decide)
  have hminus : '-' ∉ a.core := fun h => by rcases mem_core h with h | h <;> exact absurd h (by decide)
  rw [parseStrict?, text, cutAt_listed hplus]
  dsimp only
  rw [front, cutAt_listed hminus]
  dsimp only
  rw [dotted_prerelease, dotted_build, splitAt_core]
  simp only [Bool.and_self, if_true, List.map_cons, List.map_nil, plainNumber?_toDigits, Fits]
  by_cases hmajor : a.major < UInt64.size
  · by_cases hminor : a.minor < UInt64.size
    · by_cases hpatch : a.patch < UInt64.size
      · simp [hmajor, hminor, hpatch, version]
      · simp [hmajor, hminor, hpatch]
    · simp [hmajor, hminor]
  · simp [hmajor]

lemma exists_text_of_parseStrict? {s : List Char} {v : Version} (h : parseStrict? s = some v) :
    ∃ a : Semantic, a.text = s ∧ a.Fits ∧ a.version = v := by
  rw [parseStrict?] at h
  rcases hfront : cutAt '+' s with ⟨front, build⟩
  rcases hcore : cutAt '-' front with ⟨core, pre⟩
  simp only [hfront, hcore] at h
  split at h
  · next hdotted =>
    obtain ⟨hpre, hbuild⟩ := Bool.and_eq_true_iff.mp hdotted
    obtain ⟨pres, rfl, hpres⟩ := exists_joined_of_dotted hpre
    obtain ⟨builds, rfl, hbuilds⟩ := exists_joined_of_dotted hbuild
    obtain ⟨ids, rfl⟩ : ∃ ids : List Identifier, ids.map Identifier.text = pres :=
      (Set.range_list_map _).ge fun part hpart => Identifier.exists_text_eq (hpres part hpart)
    obtain ⟨tags, rfl⟩ : ∃ tags : List { s // isBuildIdentifier s = true }, tags.map Subtype.val = builds :=
      (Set.range_list_map _).ge fun part hpart => ⟨⟨part, hbuilds part hpart⟩, rfl⟩
    split at h
    · next major minor patch hsplit =>
      obtain ⟨_, hmajor, h⟩ := Option.bind_eq_some_iff.mp h
      obtain ⟨_, hminor, h⟩ := Option.bind_eq_some_iff.mp h
      obtain ⟨_, hpatch, h⟩ := Option.bind_eq_some_iff.mp h
      obtain ⟨a, ha, rfl, rfl⟩ := plainNumber?_eq_some hmajor
      obtain ⟨b, hb, rfl, rfl⟩ := plainNumber?_eq_some hminor
      obtain ⟨c, hc, rfl, rfl⟩ := plainNumber?_eq_some hpatch
      have hjoined : ['.'].intercalate (core.splitOn '.') = core := List.intercalate_splitOn '.'
      rw [← splitAt_eq_splitOn, hsplit] at hjoined
      refine ⟨⟨a, b, c, ids, tags⟩, ?_, ⟨ha, hb, hc⟩, Option.some.inj h⟩
      rw [eq_append_of_cutAt hfront, eq_append_of_cutAt hcore, ← hjoined]
      rfl
    · cases h
  · cases h

end Semantic

section Lenient

variable {rest : List Char}

lemma digitRun?_toDigits (n : Nat) (hrest : ∀ c ∈ rest.head?, isDecimalDigit c = false) :
    digitRun? (Nat.toDigits 10 n ++ rest) = some (Nat.toDigits 10 n, rest) := by
  have hdigits : ∀ c ∈ Nat.toDigits 10 n, isDecimalDigit c = true :=
    fun c hc => isDecimalDigit_of_isAsciiDigit (isAsciiDigit_of_mem_toDigits hc)
  rw [digitRun?, takeWhile_append_of_head hdigits hrest, dropWhile_append_of_head hdigits hrest]
  cases h : Nat.toDigits 10 n with
  | nil => exact absurd h Nat.toDigits_ne_nil
  | cons c cs => rfl

lemma separatedRun_toDigits (n : Nat) (hrest : ∀ c ∈ rest.head?, isDecimalDigit c = false) :
    separatedRun ('.' :: (Nat.toDigits 10 n ++ rest)) = (some (Nat.toDigits 10 n), rest) := by
  simp [separatedRun, isSeparator, digitRun?_toDigits n hrest]

lemma component?_toDigits (n : Nat) : component? (some (Nat.toDigits 10 n)) =
    if n < UInt64.size then some (.ofNat n) else none := readUInt64?_toDigits n

lemma withoutV_toDigits (n : Nat) (rest : List Char) :
    withoutV (Nat.toDigits 10 n ++ rest) = Nat.toDigits 10 n ++ rest := by
  cases h : Nat.toDigits 10 n with
  | nil => exact absurd h Nat.toDigits_ne_nil
  | cons c cs =>
    have hdigit : isAsciiDigit c = true := isAsciiDigit_of_mem_toDigits (h ▸ List.mem_cons_self)
    rw [List.cons_append, withoutV]
    · rintro r hr
      cases hr
      exact absurd hdigit (by decide)
    · rintro r hr
      cases hr
      exact absurd hdigit (by decide)

lemma parts?_triple (k m n : Nat) {tail : List Char} (htail : ∀ c ∈ tail.head?, isDecimalDigit c = false) :
    parts? (Nat.toDigits 10 k ++ '.' :: (Nat.toDigits 10 m ++ '.' :: (Nat.toDigits 10 n ++ tail))) =
      some ⟨Nat.toDigits 10 k, some (Nat.toDigits 10 m), some (Nat.toDigits 10 n),
        (separatedIdentifiers tail).1, (separatedIdentifiers tail).2⟩ := by
  have hdot : ∀ r : List Char, ∀ c ∈ ('.' :: r).head?, isDecimalDigit c = false := by
    rintro r c ⟨⟩
    decide
  rw [parts?, withoutV_toDigits, digitRun?_toDigits _ (hdot _), Option.map_some]
  dsimp only
  rw [separatedRun_toDigits _ (hdot _)]
  dsimp only
  rw [separatedRun_toDigits _ htail]

end Lenient

namespace Semantic

variable (a : Semantic)

lemma text_eq : a.text = Nat.toDigits 10 a.major ++ '.' :: (Nat.toDigits 10 a.minor ++
    '.' :: (Nat.toDigits 10 a.patch ++
      (listed '-' (a.prerelease.map Identifier.text) ++ listed '+' (a.build.map Subtype.val)))) := by
  simp [text, front, core]

lemma withoutV_text : withoutV a.text = a.text := by
  rw [text_eq, withoutV_toDigits]

lemma parts?_text : ∃ pre rest, parts? a.text = some
    ⟨Nat.toDigits 10 a.major, some (Nat.toDigits 10 a.minor), some (Nat.toDigits 10 a.patch), pre,
      rest⟩ := by
  have htail : ∀ c ∈ (listed '-' (a.prerelease.map Identifier.text) ++
      listed '+' (a.build.map Subtype.val)).head?, isDecimalDigit c = false := by
    intro c hc
    have hmark : c = '-' ∨ c = '+' := by
      rw [List.head?_append, Option.mem_def, Option.or_eq_some_iff] at hc
      rcases hc with hc | ⟨-, hc⟩
      · exact .inl (head?_listed _ _ c hc)
      · exact .inr (head?_listed _ _ c hc)
    rcases hmark with rfl | rfl <;> decide
  rw [text_eq]
  exact ⟨_, _, parts?_triple _ _ _ htail⟩

lemma parseLenient?_text : ∃ prerelease build, parseLenient? a.text =
    if a.Fits then some ⟨.ofNat a.major, .ofNat a.minor, .ofNat a.patch, prerelease, build⟩ else none := by
  obtain ⟨pre, rest, hparts⟩ := a.parts?_text
  refine ⟨pre.map String.ofList,
    if (trim rest).isEmpty then none else some (String.ofList (trim rest)), ?_⟩
  simp only [parseLenient?, hparts, Option.bind_eq_bind, Option.bind_some, component?_toDigits]
  by_cases hmajor : a.major < UInt64.size
  · by_cases hminor : a.minor < UInt64.size
    · by_cases hpatch : a.patch < UInt64.size
      · simp [hmajor, hminor, hpatch, Fits]
      · simp [hmajor, hminor, hpatch, Fits]
    · simp [hmajor, hminor, Fits]
  · simp [hmajor, Fits]

variable {a}

lemma parse_of_trim_eq {s : String} (h : trim s.toList = a.text) :
    parse s = if a.Fits then .ok a.version else .error (.invalidVersion (String.ofList a.text)) := by
  obtain ⟨pre, build, hlenient⟩ := a.parseLenient?_text
  rw [parse, h, parseStrict?_text, hlenient]
  by_cases h : a.Fits
  · simp [h]
  · simp [h]

lemma trim_text : trim a.text = a.text := trim_eq_self fun _ hc => isBlank_eq_false (mem_text hc)

variable (a)

lemma parse_text : parse (String.ofList a.text) =
    if a.Fits then .ok a.version else .error (.invalidVersion (String.ofList a.text)) :=
  parse_of_trim_eq (by rw [String.toList_ofList, trim_text])

end Semantic

def IsSemantic (s : List Char) : Prop := ∃ a : Semantic, a.text = s

lemma parse_of_not_isSemantic {s : String} (h : ¬ IsSemantic (trim s.toList)) : parse s =
    match parseLenient? (trim s.toList) with
    | some v => .ok v
    | none => .error (.invalidVersion (String.ofList (trim s.toList))) := by
  have hstrict : parseStrict? (trim s.toList) = none := by
    refine Option.eq_none_iff_forall_ne_some.mpr fun v hv => h ?_
    obtain ⟨a, ha, -⟩ := Semantic.exists_text_of_parseStrict? hv
    exact ⟨a, ha⟩
  rw [parse, hstrict]
  rfl

end HostProbe.Version
