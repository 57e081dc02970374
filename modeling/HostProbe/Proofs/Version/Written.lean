import HostProbe.Proofs.Version.Layout
import HostProbe.Proofs.Version.Order

/-! The written form of a version is read again as the version, except that build metadata gets a plus
sign more where it is read loosely. So does the build metadata of a semantic version with a `v` before it,
which is read loosely too. -/

namespace HostProbe.Version

open HostProbe.Text HostProbe.Decimal

/-- As versions are that were read: a prerelease is a list of identifiers, and build metadata is not empty
and has no blanks around it. -/
structure Legible (v : Version) : Prop where
  prerelease : ∀ s ∈ v.prerelease, Dotted s.toList
  build : ∀ s ∈ v.build, s.toList ≠ [] ∧ trim s.toList = s.toList

def plussed (v : Version) : Version := { v with build := v.build.map ("+" ++ ·) }

section Identifiers

variable {s rest : List Char} {parts : List (List Char)}

lemma isBlank_of_dotted (h : Dotted s) : ∀ c ∈ s, isBlank c = false :=
  fun c hc => isBlank_eq_false ((h.chars c hc).imp_right .inl)

lemma takes_dotted_append (h : Dotted s)
    (hrest : ∀ c ∈ rest.head?, ¬ (isIdentifierChar c = true ∨ c = '.')) :
    Takes Dotted (s ++ rest) s rest where
  eq_append := rfl
  nil_or_kind := .inr h
  longest := by
    -- A longer list would have the first character of the rest in it.
    intro p hp hprefix
    by_contra hlonger
    obtain ⟨t, rfl⟩ := List.prefix_of_prefix_length_le (List.prefix_append s rest) hprefix
      (Nat.le_of_not_le hlonger)
    cases t with
    | nil => simp at hlonger
    | cons c t =>
      obtain ⟨u, rfl⟩ := (List.prefix_append_right_inj s).mp hprefix
      exact hrest c rfl (hp.chars c (by simp))

lemma dotted_intercalate (hne : parts ≠ []) (h : ∀ part ∈ parts, RunOf isIdentifierChar part) :
    Dotted (['.'].intercalate parts) := by
  induction parts with
  | nil => exact absurd rfl hne
  | cons part parts ih =>
    have hpart := h part List.mem_cons_self
    cases parts with
    | nil => simpa using .last hpart
    | cons next parts =>
      rw [List.intercalate_cons_cons, List.append_assoc]
      exact .more hpart (ih (List.cons_ne_nil _ _) fun p hp => h p (List.mem_cons_of_mem _ hp))

lemma dotted_of_joined (h : ∀ part ∈ parts, RunOf isIdentifierChar part) (hs : joined parts = some s) :
    Dotted s := by
  cases parts with
  | nil => cases hs
  | cons part parts =>
    obtain rfl := Option.some.inj hs
    exact dotted_intercalate (List.cons_ne_nil _ _) h

lemma runOf_of_isBuildIdentifier (h : isBuildIdentifier s = true) : RunOf isIdentifierChar s := by
  rw [isBuildIdentifier, Bool.and_eq_true, List.all_eq_true] at h
  exact ⟨by simpa using h.1, h.2⟩

end Identifiers

section Text

variable {v w : Version}

def behind (mark : Char) : Option String → List Char
  | none => []
  | some s => mark :: s.toList

def marks (v : Version) : List Char := behind '-' v.prerelease ++ behind '+' v.build

lemma toList_marked (mark : Char) (s : Option String) :
    (marked (String.singleton mark) s).toList = behind mark s := by
  cases s <;> simp [marked, behind]

lemma toList_text (v : Version) : v.text.toList = Nat.toDigits 10 v.major.toNat ++
    '.' :: (Nat.toDigits 10 v.minor.toNat ++ '.' :: (Nat.toDigits 10 v.patch.toNat ++ v.marks)) := by
  have hpre := toList_marked '-' v.prerelease
  have hbuild := toList_marked '+' v.build
  simp only [text, triple, String.toList_append, Nat.toString_eq_repr, Nat.toList_repr, marks, ← hpre,
    ← hbuild]
  simp

lemma head?_marks (v : Version) : ∀ c ∈ v.marks.head?, c = '-' ∨ c = '+' := by
  rw [marks]
  rcases v.prerelease with _ | p
  · rcases v.build with _ | b
    · nofun
    · rintro c ⟨⟩
      exact .inr rfl
  · rintro c ⟨⟩
    exact .inl rfl

lemma plussed_inj : v.plussed = w.plussed ↔ v = w := by
  refine ⟨fun h => ?_, congrArg plussed⟩
  cases v
  cases w
  obtain ⟨rfl, rfl, rfl, rfl, hbuild⟩ := Version.mk.inj h
  obtain rfl := Option.map_injective (fun s t hst => by simpa using hst) hbuild
  rfl

lemma plussed_of_none (h : v.build = none) : v.plussed = v := by
  cases v
  cases h
  rfl

lemma text_plussed_eq_iff : v.plussed.text = v.text ↔ v.build = none := by
  refine ⟨fun h => ?_, fun h => congrArg text (plussed_of_none h)⟩
  cases hbuild : v.build with
  | none => rfl
  | some b =>
    have hlength := congrArg (fun s : String => s.toList.length) h
    simp [toList_text, plussed, marks, behind, hbuild] at hlength

namespace Legible

variable (hv : v.Legible)

include hv

lemma separatedIdentifiers_marks : separatedIdentifiers v.marks =
    (v.prerelease.map String.toList, behind '+' v.build) := by
  have hend : ∀ c ∈ (behind '+' v.build).head?, ¬ (isIdentifierChar c = true ∨ c = '.') := by
    cases v.build with
    | none => nofun
    | some b =>
      rintro c ⟨⟩
      decide
  rw [marks]
  cases hpre : v.prerelease with
  | none =>
    cases v.build with
    | none => rfl
    | some b => rfl
  | some p =>
    obtain ⟨part, htakes, hpart⟩ := takes_separatedIdentifiers
      ('-' :: (p.toList ++ behind '+' v.build))
    have hlist : Dotted p.toList := hv.prerelease p hpre
    obtain ⟨rfl, hrest⟩ := htakes.unique ((takes_dotted_append hlist hend).behind hlist.ne_nil rfl)
    exact Prod.ext hpart hrest

lemma trim_plus {b : String} (hb : v.build = some b) : trim ('+' :: b.toList) = '+' :: b.toList := by
  have hplus : ∀ c ∈ ['+'], isBlank c = false := List.forall_mem_singleton.mpr (by decide)
  exact trim_append (List.cons_ne_nil '+' []) hplus (hv.build b hb).2

lemma parseLenient?_text : parseLenient? v.text.toList = some v.plussed := by
  have hend : ∀ c ∈ v.marks.head?, isDecimalDigit c = false := by
    intro c hc
    rcases v.head?_marks c hc with rfl | rfl <;> decide
  rw [parseLenient?, toList_text, parts?_triple _ _ _ hend, hv.separatedIdentifiers_marks]
  have hpre : (v.prerelease.map String.toList).map String.ofList = v.prerelease := by
    cases v.prerelease <;> simp
  simp only [Option.bind_eq_bind, Option.bind_some, component?_toDigits, UInt64.toNat_lt_size, if_true,
    UInt64.ofNat_toNat, hpre]
  cases hbuild : v.build with
  | none => simp [plussed, behind, hbuild, trim, trimBy, dropRightWhile]
  | some b => simp [plussed, behind, hbuild, hv.trim_plus hbuild, String.ofList_cons]

lemma trim_text : trim v.text.toList = v.text.toList := by
  have hdigits (n : Nat) : ∀ c ∈ Nat.toDigits 10 n, isBlank c = false := fun c hc =>
    isBlank_eq_false (.inl (isIdentifierChar_of_isAsciiDigit (isAsciiDigit_of_mem_toDigits hc)))
  have hdot : ∀ s, trim s = s → trim ('.' :: s) = '.' :: s := fun s hs =>
    trim_append (List.cons_ne_nil '.' []) (List.forall_mem_singleton.mpr (by decide)) hs
  have hbuild : trim (behind '+' v.build) = behind '+' v.build := by
    cases hb : v.build with
    | none => rfl
    | some b => exact hv.trim_plus hb
  have hmarks : trim v.marks = v.marks := by
    rw [marks]
    cases hpre : v.prerelease with
    | none => exact hbuild
    | some p =>
      have hchars : ∀ c ∈ '-' :: p.toList, isBlank c = false := List.forall_mem_cons.mpr
        ⟨by decide, isBlank_of_dotted (hv.prerelease p hpre)⟩
      exact trim_append (List.cons_ne_nil _ _) hchars hbuild
  rw [toList_text]
  refine trim_append Nat.toDigits_ne_nil (hdigits _) (hdot _ ?_)
  refine trim_append Nat.toDigits_ne_nil (hdigits _) (hdot _ ?_)
  exact trim_append Nat.toDigits_ne_nil (hdigits _) hmarks

end Legible

lemma parse_text_of_not_isSemantic (hv : v.Legible) (h : ¬ IsSemantic v.text.toList) :
    parse v.text = .ok v.plussed := by
  rw [parse_of_not_isSemantic (hv.trim_text.symm ▸ h), hv.trim_text, hv.parseLenient?_text]

end Text

namespace Semantic

variable {a : Semantic}

lemma behind_joined (mark : Char) (parts : List (List Char)) :
    behind mark ((joined parts).map String.ofList) = listed mark parts := by
  cases parts <;> simp [joined, listed, behind]

lemma toList_text_version (h : a.Fits) : a.version.text.toList = a.text := by
  rw [toList_text, marks, version, text_eq]
  simp only [behind_joined, UInt64.toNat_ofNat_of_lt' h.1, UInt64.toNat_ofNat_of_lt' h.2.1,
    UInt64.toNat_ofNat_of_lt' h.2.2]

lemma legible_version (a : Semantic) : a.version.Legible where
  prerelease := by
    intro s hs
    obtain ⟨list, hlist, rfl⟩ := Option.map_eq_some_iff.mp (Option.mem_def.mp hs)
    rw [String.toList_ofList]
    refine dotted_of_joined (fun part hpart => ?_) hlist
    obtain ⟨p, -, rfl⟩ := List.mem_map.mp hpart
    exact ⟨p.text_ne_nil, fun _ hc => isIdentifierChar_of_mem_text hc⟩
  build := by
    intro s hs
    obtain ⟨list, hlist, rfl⟩ := Option.map_eq_some_iff.mp (Option.mem_def.mp hs)
    rw [String.toList_ofList]
    have hdotted : Dotted list := by
      refine dotted_of_joined (fun part hpart => ?_) hlist
      obtain ⟨identifier, -, rfl⟩ := List.mem_map.mp hpart
      exact runOf_of_isBuildIdentifier identifier.2
    exact ⟨hdotted.ne_nil, trim_eq_self (isBlank_of_dotted hdotted)⟩

lemma parseLenient?_text_of_fits (h : a.Fits) : parseLenient? a.text = some a.version.plussed := by
  rw [← toList_text_version h, a.legible_version.parseLenient?_text]

end Semantic

section Reading

variable {s : String} {v : Version}

lemma kept_eq_some {t : List Char} {r : String} (h : Layout.kept t = some r) : t ≠ [] ∧ r.toList = t := by
  rw [Layout.kept] at h
  split at h
  · cases h
  · next hne =>
    obtain rfl := Option.some.inj h
    exact ⟨hne, String.toList_ofList⟩

lemma Layout.legible_version {l : Layout} {t : List Char} (h : l.Divides t) : l.version.Legible where
  prerelease := by
    intro r hr
    obtain ⟨hne, hr⟩ := kept_eq_some hr
    obtain ⟨_, _, _, _, -, -, -, -, hpre⟩ := h
    rcases hpre.nil_or_kind with hnil | ⟨c, list, hlist, -, hdotted⟩
    · rw [hnil] at hne
      exact absurd rfl hne
    · rw [hr, hlist]
      exact hdotted
  build := by
    intro r hr
    obtain ⟨hne, hr⟩ := kept_eq_some hr
    rw [hr]
    exact ⟨hne, trim_trim l.rest⟩

lemma legible_of_parse (h : parse s = .ok v) : v.Legible := by
  by_cases hsemantic : IsSemantic (trim s.toList)
  · obtain ⟨a, ha⟩ := hsemantic
    rw [Semantic.parse_of_trim_eq ha.symm] at h
    split at h
    · obtain rfl := Except.ok.inj h
      exact a.legible_version
    · cases h
  · obtain ⟨l, hl, -⟩ := exists_divides (trim s.toList)
    rw [parse_of_not_isSemantic hsemantic, parseLenient?_of_divides hl] at h
    by_cases hreadable : l.Readable
    · rw [if_pos hreadable] at h
      obtain rfl := Except.ok.inj h
      exact Layout.legible_version hl
    · rw [if_neg hreadable] at h
      cases h

lemma Semantic.eq_version_of_text {a : Semantic} (hv : v.Legible) (ha : a.text = v.text.toList) :
    a.Fits ∧ v = a.version := by
  have hread := hv.parseLenient?_text
  obtain ⟨pre, build, hlenient⟩ := a.parseLenient?_text
  rw [← ha] at hread
  have hfits : a.Fits := by
    by_contra hnot
    rw [hlenient, if_neg hnot] at hread
    cases hread
  rw [parseLenient?_text_of_fits hfits] at hread
  exact ⟨hfits, (plussed_inj.mp (Option.some.inj hread)).symm⟩

/-- The written form of a version that was read is read as the same version. Its build metadata is the same
if there is none or the written form is a semantic version, and has one plus sign more otherwise. -/
theorem written_form_is_read_back (h : parse s = .ok v) :
    ∃ w, parse v.text = .ok w ∧ w.major = v.major ∧ w.minor = v.minor ∧ w.patch = v.patch ∧
      w.prerelease = v.prerelease ∧ w.same v = true ∧
      (v.build = none ∨ IsSemantic v.text.toList → w.build = v.build) ∧
      ∀ b, v.build = some b → ¬ IsSemantic v.text.toList → w.build = some ("+" ++ b) := by
  have hv := legible_of_parse h
  by_cases hsemantic : IsSemantic v.text.toList
  · obtain ⟨a, ha⟩ := hsemantic
    obtain ⟨hfits, hversion⟩ := Semantic.eq_version_of_text hv ha
    refine ⟨v, ?_, rfl, rfl, rfl, rfl, equivalence_same.refl v, fun _ => rfl, fun _ _ hnot => ?_⟩
    · rw [Semantic.parse_of_trim_eq (hv.trim_text.trans ha.symm), if_pos hfits, hversion]
    · exact absurd ⟨a, ha⟩ hnot
  · refine ⟨v.plussed, parse_text_of_not_isSemantic hv hsemantic, rfl, rfl, rfl, rfl,
      equivalence_same.refl v, ?_, ?_⟩
    · rintro (hnone | hsome)
      · rw [plussed_of_none hnone]
      · exact absurd hsome hsemantic
    · intro b hb _
      rw [plussed, hb]
      rfl

theorem written_form_is_read_back_of_note :
    let v : Version := ⟨2, 0, 16, none, some "(kexec-tools)"⟩
    parse "2.0.16 (kexec-tools)" = .ok v ∧ v.text = "2.0.16+(kexec-tools)" ∧
      ∃ w, parse v.text = .ok w ∧ w.same v = true ∧ w.build = some "+(kexec-tools)" := by
  intro v
  have hread : parse "2.0.16 (kexec-tools)" = .ok v := by decide +kernel
  have hnot : ¬ IsSemantic v.text.toList := by
    rintro ⟨a, ha⟩
    have hparenthesis : '(' ∈ a.text := ha ▸ by decide +kernel
    exact absurd (Semantic.mem_text hparenthesis) (by decide)
  obtain ⟨w, hw, -, -, -, -, hsame, -, hbuild⟩ := written_form_is_read_back hread
  exact ⟨hread, by decide +kernel, w, hw, hsame, hbuild _ rfl hnot⟩

end Reading

section Mark

variable {a : Semantic} {mark t : List Char}

lemma withoutV_append (hmark : Layout.IsMark mark) : withoutV (mark ++ t) = t := by
  rcases hmark with rfl | rfl <;> rfl

lemma not_isSemantic_append (hmark : Layout.IsMark mark) : ¬ IsSemantic (mark ++ t) := by
  rintro ⟨a, ha⟩
  have hsame := a.withoutV_text
  rw [ha, withoutV_append hmark] at hsame
  rcases hmark with rfl | rfl <;> simp at hsame

lemma parse_append_of_fits (hmark : Layout.IsMark mark) (h : a.Fits) :
    parse (String.ofList (mark ++ a.text)) = .ok a.version.plussed := by
  have hchars : mark ≠ [] ∧ ∀ c ∈ mark, isBlank c = false := by
    rcases hmark with rfl | rfl
    · exact ⟨List.cons_ne_nil _ _, List.forall_mem_singleton.mpr (by decide)⟩
    · exact ⟨List.cons_ne_nil _ _, List.forall_mem_singleton.mpr (by decide)⟩
  have htrim : trim (mark ++ a.text) = mark ++ a.text := trim_append hchars.1 hchars.2 Semantic.trim_text
  have hlenient : parseLenient? (mark ++ a.text) = parseLenient? a.text := by
    rw [parseLenient?, parts?, withoutV_append hmark, parseLenient?, parts?, a.withoutV_text]
  have hnot : ¬ IsSemantic (trim (String.ofList (mark ++ a.text)).toList) := by
    rw [String.toList_ofList, htrim]
    exact not_isSemantic_append hmark
  rw [parse_of_not_isSemantic hnot, String.toList_ofList, htrim, hlenient,
    Semantic.parseLenient?_text_of_fits h]

/-- Behind a `v`, a semantic version whose numbers have 64 bits is read as the same numbers and the same
prerelease. Its build metadata keeps the plus sign there, so that it is the same, and is written in the same
way, exactly if there is none. -/
theorem read_behind_mark (h : a.Fits) (hmark : Layout.IsMark mark) :
    ∃ v w, parse (String.ofList a.text) = .ok v ∧ parse (String.ofList (mark ++ a.text)) = .ok w ∧
      w.major = v.major ∧ w.minor = v.minor ∧ w.patch = v.patch ∧ w.prerelease = v.prerelease ∧
      w.build = v.build.map ("+" ++ ·) ∧ (w.build = v.build ↔ a.build = []) ∧
      (w.text = v.text ↔ a.build = []) := by
  have hnone : a.version.build = none ↔ a.build = [] := by
    rw [Semantic.version]
    cases a.build <;> simp [joined]
  refine ⟨a.version, a.version.plussed, by rw [Semantic.parse_text, if_pos h], parse_append_of_fits hmark h,
    rfl, rfl, rfl, rfl, rfl, ?_, text_plussed_eq_iff.trans hnone⟩
  rw [← hnone, plussed]
  cases hbuild : a.version.build with
  | none => simp
  | some b => simp [String.ext_iff]

theorem read_behind_mark_of_prerelease :
    let beta := Identifier.named "beta".toList ⟨List.all_eq_true.mp (by decide), 'b', by decide, by decide⟩
    let a : Semantic := ⟨1, 2, 3, [beta], []⟩
    a.Fits ∧ Layout.IsMark ['v'] ∧ ∃ v w, parse "1.2.3-beta" = .ok v ∧ parse "v1.2.3-beta" = .ok w ∧
      w.prerelease = v.prerelease ∧ w.build = v.build ∧ w.text = v.text := by
  intro beta a
  have hfits : a.Fits := by decide
  have hplain : String.ofList a.text = "1.2.3-beta" := by decide +kernel
  have hmarked : String.ofList (['v'] ++ a.text) = "v1.2.3-beta" := by decide +kernel
  obtain ⟨v, w, hv, hw, -, -, -, hpre, -, hbuild, htext⟩ := read_behind_mark hfits (.inl rfl)
  rw [hplain] at hv
  rw [hmarked] at hw
  exact ⟨hfits, .inl rfl, v, w, hv, hw, hpre, hbuild.mpr rfl, htext.mpr rfl⟩

/-- Build metadata keeps its plus sign behind a `v`, and another one is written before it. -/
theorem plus_sign_is_kept_behind_mark :
    let a : Semantic := ⟨1, 0, 0, [], [⟨"a".toList, by decide⟩]⟩
    let v : Version := ⟨1, 0, 0, none, some "a"⟩
    let w : Version := ⟨1, 0, 0, none, some "+a"⟩
    a.Fits ∧ String.ofList a.text = "1.0.0+a" ∧ parse "1.0.0+a" = .ok v ∧ v.text = "1.0.0+a" ∧
      parse "v1.0.0+a" = .ok w ∧ w.text = "1.0.0++a" := by
  decide +kernel

end Mark

end HostProbe.Version
