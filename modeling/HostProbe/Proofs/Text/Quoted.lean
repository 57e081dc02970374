import HostProbe.Text.Quoted
import Mathlib.Tactic.Common

/-! Written forms that can be read back in front of any text. A written form is self-delimiting if it
shows by itself where it ends and what was written; shown texts between double quotes are, since no
escape begins with a quote and each escape tells its character. -/

namespace HostProbe.Text

variable {α β : Type}

def SelfDelimiting (write : α → List Char) : Prop :=
  ∀ a b rest rest', write a ++ rest = write b ++ rest' → a = b ∧ rest = rest'

def Avoids (mark : Char) (write : α → List Char) : Prop :=
  ∀ a, ∃ c l, write a = c :: l ∧ c ≠ mark

namespace SelfDelimiting

variable {f : α → List Char} {g : β → List Char} {mark : Char}

lemma append (hf : SelfDelimiting f) (hg : SelfDelimiting g) :
    SelfDelimiting fun p : α × β => f p.1 ++ g p.2 := by
  rintro ⟨a, b⟩ ⟨a', b'⟩ rest rest' h
  simp only [List.append_assoc] at h
  obtain ⟨rfl, hb⟩ := hf _ _ _ _ h
  obtain ⟨rfl, hrest⟩ := hg _ _ _ _ hb
  exact ⟨rfl, hrest⟩

lemma between (hf : SelfDelimiting f) (before after : List Char) :
    SelfDelimiting fun a => before ++ f a ++ after := by
  intro a b rest rest' h
  simp only [List.append_assoc, List.append_cancel_left_eq] at h
  obtain ⟨rfl, hrest⟩ := hf _ _ _ _ h
  exact ⟨rfl, List.append_cancel_left hrest⟩

lemma mark_clash (hmark : Avoids mark f) (a : α) (tail rest : List Char) :
    mark :: rest ≠ f a ++ tail := by
  obtain ⟨c, l, hc, hne⟩ := hmark a
  rw [hc, List.cons_append]
  exact fun h => hne (List.cons.inj h).1.symm

lemma flatMap (hf : SelfDelimiting f) (hmark : Avoids mark f) :
    SelfDelimiting fun l : List α => l.flatMap f ++ [mark] := by
  intro as bs rest rest' h
  simp only [List.append_assoc, List.singleton_append] at h
  induction as generalizing bs with
  | nil =>
    cases bs with
    | nil => exact ⟨rfl, (List.cons.inj h).2⟩
    | cons b bs =>
      rw [List.flatMap_cons, List.append_assoc] at h
      exact absurd h (mark_clash hmark b _ _)
  | cons a as ih =>
    cases bs with
    | nil =>
      rw [List.flatMap_cons, List.append_assoc] at h
      exact absurd h.symm (mark_clash hmark a _ _)
    | cons b bs =>
      rw [List.flatMap_cons, List.flatMap_cons, List.append_assoc, List.append_assoc] at h
      obtain ⟨rfl, htail⟩ := hf _ _ _ _ h
      obtain ⟨rfl, hrest⟩ := ih bs htail
      exact ⟨rfl, hrest⟩

lemma intercalate (hf : SelfDelimiting f) (hmark : Avoids mark f) {c : Char} (hc : c ≠ mark)
    (sep : List Char) :
    SelfDelimiting fun l : List α => (c :: sep).intercalate (l.map f) ++ [mark] := by
  have hsplit : ∀ a as, (c :: sep).intercalate ((a :: as).map f) =
      f a ++ as.flatMap fun b => c :: sep ++ f b := by
    intro a as
    induction as generalizing a with
    | nil => simp
    | cons b as ih =>
      simp only [List.map_cons] at ih ⊢
      rw [List.intercalate_cons_cons, ih b, List.flatMap_cons]
      simp only [List.append_assoc]
  have hmore : SelfDelimiting fun l : List α => (l.flatMap fun b => c :: sep ++ f b) ++ [mark] := by
    refine flatMap ?_ fun b => ⟨c, sep ++ f b, rfl, hc⟩
    simpa using hf.between (c :: sep) []
  intro as bs rest rest' h
  cases as with
  | nil =>
    cases bs with
    | nil => exact ⟨rfl, List.append_cancel_left h⟩
    | cons b bs =>
      simp only [hsplit, List.append_assoc] at h
      exact absurd h (mark_clash hmark b _ _)
  | cons a as =>
    cases bs with
    | nil =>
      simp only [hsplit, List.append_assoc] at h
      exact absurd h.symm (mark_clash hmark a _ _)
    | cons b bs =>
      simp only [hsplit, List.append_assoc] at h
      obtain ⟨rfl, htail⟩ := hf _ _ _ _ h
      simp only [← List.append_assoc] at htail
      obtain ⟨rfl, hrest⟩ := hmore _ _ _ _ htail
      exact ⟨rfl, hrest⟩

end SelfDelimiting

section CodePoints

lemma digitChar_injective : ∀ d < 16, ∀ e < 16, Nat.digitChar d = Nat.digitChar e → d = e := by
  decide

lemma digitChar_ne_brace : ∀ d < 16, Nat.digitChar d ≠ '\x7d' := by decide

lemma toDigits_injective {m n : Nat} (h : Nat.toDigits 16 m = Nat.toDigits 16 n) : m = n := by
  induction m using Nat.strongRecOn generalizing n with
  | _ m ih =>
    rw [Nat.toDigits_eq_if (by omega), Nat.toDigits_eq_if (n := n) (by omega)] at h
    split at h <;> split at h
    · exact digitChar_injective m ‹_› n ‹_› (List.singleton_inj.mp h)
    · simpa using congrArg List.length h
    · simpa using congrArg List.length h
    · obtain ⟨hq, hr⟩ := List.append_inj' h rfl
      have hmod := digitChar_injective (m % 16) (by omega) (n % 16) (by omega)
        (List.singleton_inj.mp hr)
      have hdiv := ih (m / 16) (by omega) hq
      omega

lemma brace_not_mem_toDigits (n : Nat) : '\x7d' ∉ Nat.toDigits 16 n := by
  induction n using Nat.strongRecOn with
  | _ n ih =>
    rw [Nat.toDigits_eq_if (by omega)]
    split
    · rw [List.mem_singleton]
      exact (digitChar_ne_brace n ‹_›).symm
    · rw [List.mem_append, List.mem_singleton, not_or]
      exact ⟨ih (n / 16) (by omega), (digitChar_ne_brace (n % 16) (by omega)).symm⟩

lemma takeWhile_toDigits (n : Nat) (rest : List Char) :
    (Nat.toDigits 16 n ++ '\x7d' :: rest).takeWhile (· != '\x7d') = Nat.toDigits 16 n := by
  rw [List.takeWhile_append_of_pos]
  · simp
  · intro c hc
    exact bne_iff_ne.mpr fun h => brace_not_mem_toDigits n (h ▸ hc)

lemma selfDelimiting_codePointEscape : SelfDelimiting codePointEscape := by
  intro c d rest rest' h
  simp only [codePointEscape, List.append_assoc, List.append_cancel_left_eq,
    List.singleton_append] at h
  have hdigits : Nat.toDigits 16 c.toNat = Nat.toDigits 16 d.toNat := by
    rw [← takeWhile_toDigits c.toNat rest, h, takeWhile_toDigits]
  rw [hdigits] at h
  have hcd : c = d := Char.toNat_inj.mp (toDigits_injective hdigits)
  exact ⟨hcd, (List.cons.inj (List.append_cancel_left h)).2⟩

end CodePoints

/-- The characters that are escaped by a letter or by themselves, with what stands after the
backslash. -/
def escapes : List (Char × Char) :=
  [('\x00', '0'), ('\t', 't'), ('\r', 'r'), ('\n', 'n'), ('\\', '\\'), ('"', '"')]

lemma escapes_injective : ∀ p ∈ escapes, ∀ q ∈ escapes, p.2 = q.2 → p.1 = q.1 := by decide

lemma escapes_ne_u : ∀ p ∈ escapes, p.2 ≠ 'u' := by decide

lemma escapeChar_cases (c : Char) :
    (∃ p ∈ escapes, p.1 = c ∧ escapeChar insideQuotes c = ['\\', p.2]) ∨
      escapeChar insideQuotes c = codePointEscape c ∨
      (escapeChar insideQuotes c = [c] ∧ c ≠ '\\' ∧ c ≠ '"') := by
  by_cases hc : ∃ p ∈ escapes, p.1 = c
  · obtain ⟨p, hp, rfl⟩ := hc
    refine .inl ⟨p, hp, rfl, ?_⟩
    revert p
    decide
  · refine .inr ?_
    have hne : ∀ p ∈ escapes, c ≠ p.1 := fun p hp h => hc ⟨p, hp, h.symm⟩
    simp only [escapes, List.forall_mem_cons] at hne
    obtain ⟨h0, ht, hr, hn, hb, hq, -⟩ := hne
    rw [escapeChar, if_neg h0, if_neg ht, if_neg hr, if_neg hn, if_neg hb, if_neg hq]
    split
    · exact .inr ⟨by rw [‹c = _›]; rfl, hb, hq⟩
    · split
      · exact .inl rfl
      · exact .inr ⟨rfl, hb, hq⟩

lemma avoids_escapeChar : Avoids '"' (escapeChar insideQuotes) := by
  intro c
  rcases escapeChar_cases c with ⟨p, -, -, h⟩ | h | ⟨h, -, hq⟩
  · exact ⟨_, _, h, by decide⟩
  · exact ⟨_, _, h, by decide⟩
  · exact ⟨_, _, h, hq⟩

lemma selfDelimiting_escapeChar : SelfDelimiting (escapeChar insideQuotes) := by
  intro c d rest rest' h
  -- A letter, a code point or the character itself, on either side: forms of two kinds differ in
  -- their first two characters.
  rcases escapeChar_cases c with ⟨p, hp, rfl, hc⟩ | hc | ⟨hc, hb, -⟩ <;>
    rcases escapeChar_cases d with ⟨q, hq, rfl, hd⟩ | hd | ⟨hd, hb', -⟩ <;> rw [hc, hd] at h
  · simp only [List.cons_append, List.nil_append, List.cons.injEq, true_and] at h
    exact ⟨escapes_injective p hp q hq h.1, h.2⟩
  · exact absurd (List.cons.inj (List.cons.inj h).2).1 (escapes_ne_u p hp)
  · exact absurd (List.cons.inj h).1.symm hb'
  · exact absurd (List.cons.inj (List.cons.inj h).2).1.symm (escapes_ne_u q hq)
  · exact selfDelimiting_codePointEscape _ _ _ _ h
  · exact absurd (List.cons.inj h).1.symm hb'
  · exact absurd (List.cons.inj h).1 hb
  · exact absurd (List.cons.inj h).1 hb
  · exact List.cons.inj h

lemma selfDelimiting_quoted : SelfDelimiting fun s => (quoted s).toList := by
  intro s t rest rest' h
  simp only [quoted, String.toList_ofList, List.cons_append, List.nil_append, List.cons.injEq,
    true_and] at h
  obtain ⟨hst, hrest⟩ := selfDelimiting_escapeChar.flatMap avoids_escapeChar _ _ _ _ h
  exact ⟨String.toList_inj.mp hst, hrest⟩

lemma selfDelimiting_quotedOption : SelfDelimiting fun s => (quotedOption s).toList := by
  intro s t rest rest' h
  cases s with
  | none =>
    cases t with
    | none => exact ⟨rfl, List.append_cancel_left h⟩
    | some t =>
      simp [quotedOption] at h
  | some s =>
    cases t with
    | none =>
      simp [quotedOption] at h
    | some t =>
      simp only [quotedOption, String.toList_append] at h
      obtain ⟨rfl, hrest⟩ := (selfDelimiting_quoted.between "Some(".toList ")".toList) _ _ _ _ h
      exact ⟨rfl, hrest⟩

lemma selfDelimiting_bool : SelfDelimiting fun b : Bool => (toString b).toList := by
  have hfalse : (toString false).toList = "false".toList := rfl
  have htrue : (toString true).toList = "true".toList := rfl
  intro a b rest rest' h
  cases a <;> cases b
  · exact ⟨rfl, List.append_cancel_left h⟩
  · simp [hfalse, htrue] at h
  · simp [hfalse, htrue] at h
  · exact ⟨rfl, List.append_cancel_left h⟩

end HostProbe.Text
