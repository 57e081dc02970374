import HostProbe.Proofs.Version.Semantic

/-! How a loosely written version lies in its text. Each part is the longest text of its kind where the
part before it ends, so that a text has one layout. The text is read exactly if it has a first number and
the digits of its numbers are ASCII and have values of 64 bits; if it is no semantic version, then all of
it goes into the version. -/

namespace HostProbe.Version

open HostProbe.Text HostProbe.Decimal

variable {q : Char → Bool} {kind : List Char → Prop} {s part rest : List Char}

section Longest

/-- The longest text of a kind where a text begins, and what follows; without any nothing is taken. -/
structure Takes (kind : List Char → Prop) (s part rest : List Char) : Prop where
  eq_append : s = part ++ rest
  nil_or_kind : part = [] ∨ kind part
  longest : ∀ p, kind p → p <+: s → p.length ≤ part.length

lemma Takes.length_le {part' rest' : List Char} (h : Takes kind s part rest)
    (h' : Takes kind s part' rest') : part.length ≤ part'.length := by
  rcases h.nil_or_kind with rfl | hkind
  · exact Nat.zero_le _
  · exact h'.longest part hkind ⟨rest, h.eq_append.symm⟩

lemma Takes.unique {part' rest' : List Char} (h : Takes kind s part rest)
    (h' : Takes kind s part' rest') : part = part' ∧ rest = rest' :=
  List.append_inj (h.eq_append.symm.trans h'.eq_append) (le_antisymm (h.length_le h') (h'.length_le h))

lemma takes_nil (h : ∀ p, kind p → ¬ p <+: s) : Takes kind s [] s :=
  ⟨rfl, .inl rfl, fun p hp hprefix => absurd hprefix (h p hp)⟩

def RunOf (q : Char → Bool) (s : List Char) : Prop := s ≠ [] ∧ ∀ c ∈ s, q c = true

def Behind (q : Char → Bool) (kind : List Char → Prop) (s : List Char) : Prop :=
  ∃ c t, s = c :: t ∧ q c = true ∧ kind t

lemma takes_run (q : Char → Bool) (s : List Char) : Takes (RunOf q) s (s.takeWhile q) (s.dropWhile q) where
  eq_append := List.takeWhile_append_dropWhile.symm
  nil_or_kind := (eq_or_ne _ []).imp_right fun hne => ⟨hne, fun _ hc => List.mem_takeWhile_imp hc⟩
  longest := by
    rintro p ⟨-, hp⟩ ⟨t, rfl⟩
    rw [List.takeWhile_append_of_pos hp, List.length_append]
    exact Nat.le_add_right _ _

lemma Takes.behind {c : Char} (h : Takes kind s part rest) (hpart : part ≠ []) (hc : q c = true) :
    Takes (Behind q kind) (c :: s) (c :: part) rest where
  eq_append := congrArg (c :: ·) h.eq_append
  nil_or_kind := .inr ⟨c, part, rfl, hc, h.nil_or_kind.resolve_left hpart⟩
  longest := by
    rintro p ⟨d, t, rfl, -, ht⟩ hprefix
    exact Nat.succ_le_succ (h.longest t ht (List.cons_prefix_cons.mp hprefix).2)

lemma takes_behind_of_not {c : Char} (hc : q c = false) : Takes (Behind q kind) (c :: s) [] (c :: s) := by
  refine takes_nil ?_
  rintro p ⟨d, t, rfl, hd, -⟩ hprefix
  obtain ⟨rfl, -⟩ := List.cons_prefix_cons.mp hprefix
  exact absurd hd (by simp [hc])

lemma takes_behind_nil : Takes (Behind q kind) [] [] [] := by
  refine takes_nil ?_
  rintro p ⟨d, t, rfl, -⟩ hprefix
  exact absurd (List.prefix_nil.mp hprefix) (List.cons_ne_nil d t)

lemma Takes.behind_nil {c : Char} (h : Takes kind s [] rest) (hkind : ∀ p, kind p → p ≠ []) :
    Takes (Behind q kind) (c :: s) [] (c :: s) := by
  refine takes_nil ?_
  rintro p ⟨d, t, rfl, -, ht⟩ hprefix
  have hle := h.longest t ht (List.cons_prefix_cons.mp hprefix).2
  exact hkind t ht (List.length_eq_zero_iff.mp (Nat.le_zero.mp hle))

end Longest

section Identifiers

inductive Dotted : List Char → Prop
  | last {s : List Char} (h : RunOf isIdentifierChar s) : Dotted s
  | more {s t : List Char} (h : RunOf isIdentifierChar s) (ht : Dotted t) : Dotted (s ++ '.' :: t)

lemma Dotted.exists_run (h : Dotted s) : ∃ run, RunOf isIdentifierChar run ∧ run <+: s := by
  cases h with
  | last h => exact ⟨s, h, List.prefix_refl s⟩
  | more h ht => exact ⟨_, h, List.prefix_append _ _⟩

lemma Dotted.ne_nil (h : Dotted s) : s ≠ [] := by
  obtain ⟨run, hrun, hprefix⟩ := h.exists_run
  rintro rfl
  exact hrun.1 (List.prefix_nil.mp hprefix)

lemma Dotted.chars (h : Dotted s) : ∀ c ∈ s, isIdentifierChar c = true ∨ c = '.' := by
  induction h with
  | last h => exact fun c hc => .inl (h.2 c hc)
  | more h ht ih =>
    intro c hc
    rcases List.mem_append.mp hc with hc | hc
    · exact .inl (h.2 c hc)
    · exact (List.mem_cons.mp hc).elim .inr (ih c)

lemma takes_dotted {more : List Char} (hrun : s.takeWhile isIdentifierChar ≠ [])
    (hmore : Takes (Behind (· == '.') Dotted) (s.dropWhile isIdentifierChar) more rest) :
    Takes Dotted s (s.takeWhile isIdentifierChar ++ more) rest where
  eq_append := by rw [List.append_assoc, ← hmore.eq_append, List.takeWhile_append_dropWhile]
  nil_or_kind := by
    have hfirst : RunOf isIdentifierChar (s.takeWhile isIdentifierChar) :=
      (takes_run _ s).nil_or_kind.resolve_left hrun
    rcases hmore.nil_or_kind with rfl | ⟨c, t, rfl, hc, ht⟩
    · rw [List.append_nil]
      exact .inr (.last hfirst)
    · obtain rfl := beq_iff_eq.mp hc
      exact .inr (.more hfirst ht)
  longest := by
    rintro p hp hprefix
    rw [List.length_append]
    cases hp with
    | last h => exact ((takes_run _ s).longest p h hprefix).trans (Nat.le_add_right _ _)
    | @more run t h ht =>
      -- The dot ends the first run, so that the lists differ in what follows it only.
      obtain ⟨u, rfl⟩ := hprefix
      have hdot : ∀ c ∈ ('.' :: (t ++ u)).head?, isIdentifierChar c = false := by
        rintro c ⟨⟩
        decide
      rw [List.append_assoc, List.cons_append] at hmore ⊢
      rw [dropWhile_append_of_head h.2 hdot] at hmore
      rw [takeWhile_append_of_head h.2 hdot, List.length_append]
      have hle := hmore.longest ('.' :: t) ⟨'.', t, rfl, rfl, ht⟩ ⟨u, rfl⟩
      exact Nat.add_le_add_left hle _

lemma takes_dotted_nil (hrun : s.takeWhile isIdentifierChar = []) : Takes Dotted s [] s := by
  refine takes_nil fun p hp hprefix => ?_
  obtain ⟨run, h, hstart⟩ := hp.exists_run
  have hle := (takes_run _ s).longest run h (hstart.trans hprefix)
  rw [hrun] at hle
  exact h.1 (List.length_eq_zero_iff.mp (Nat.le_zero.mp hle))

lemma takes_moreIdentifiers (s : List Char) :
    Takes (Behind (· == '.') Dotted) s (moreIdentifiers s).1 (moreIdentifiers s).2 := by
  induction s using moreIdentifiers.induct with
  | case1 cs hrun =>
    rw [moreIdentifiers, hrun]
    exact (takes_dotted_nil hrun).behind_nil fun p hp => hp.ne_nil
  | case2 cs c run hrun ih =>
    rw [moreIdentifiers, hrun]
    have hne : cs.takeWhile isIdentifierChar ≠ [] := by simp [hrun]
    have hlist := takes_dotted hne ih
    rw [hrun] at hlist
    exact hlist.behind (List.cons_ne_nil _ _) rfl
  | case3 s hs =>
    rw [moreIdentifiers]
    · cases s with
      | nil => exact takes_behind_nil
      | cons c cs => exact takes_behind_of_not (by simpa using fun hc => hs cs (by rw [hc]))
    · exact hs

end Identifiers

/-- The parts of a text as they stand in it, the later ones with the separators before them; a part that
is not there is empty. -/
structure Layout where
  mark : List Char
  major : List Char
  minor : List Char
  patch : List Char
  prerelease : List Char
  rest : List Char

namespace Layout

def text (l : Layout) : List Char := l.mark ++ l.major ++ l.minor ++ l.patch ++ l.prerelease ++ l.rest

def IsMark (s : List Char) : Prop := s = ['v'] ∨ s = ['V']

def Divides (l : Layout) (s : List Char) : Prop :=
  ∃ afterMark afterMajor afterMinor afterPatch,
    Takes IsMark s l.mark afterMark ∧
    Takes (RunOf isDecimalDigit) afterMark l.major afterMajor ∧
    Takes (Behind isSeparator (RunOf isDecimalDigit)) afterMajor l.minor afterMinor ∧
    Takes (Behind isSeparator (RunOf isDecimalDigit)) afterMinor l.patch afterPatch ∧
    Takes (Behind isSeparator Dotted) afterPatch l.prerelease l.rest

def IsNumber (run : List Char) : Prop :=
  (∀ c ∈ run, isAsciiDigit c = true) ∧ ofDigits run < UInt64.size

instance (run : List Char) : Decidable (IsNumber run) := inferInstanceAs (Decidable (_ ∧ _))

def Readable (l : Layout) : Prop :=
  l.major ≠ [] ∧ IsNumber l.major ∧ IsNumber l.minor.tail ∧ IsNumber l.patch.tail

instance (l : Layout) : Decidable l.Readable := inferInstanceAs (Decidable (_ ∧ _))

def kept (s : List Char) : Option String := if s = [] then none else some (String.ofList s)

def version (l : Layout) : Version where
  major := .ofNat (ofDigits l.major)
  minor := .ofNat (ofDigits l.minor.tail)
  patch := .ofNat (ofDigits l.patch.tail)
  prerelease := kept l.prerelease.tail
  build := kept (trim l.rest)

variable {l l' : Layout}

lemma Divides.unique (h : l.Divides s) (h' : l'.Divides s) : l = l' := by
  obtain ⟨_, _, _, _, hmark, hmajor, hminor, hpatch, hpre⟩ := h
  obtain ⟨_, _, _, _, hmark', hmajor', hminor', hpatch', hpre'⟩ := h'
  cases l
  cases l'
  obtain ⟨rfl, rfl⟩ := hmark.unique hmark'
  obtain ⟨rfl, rfl⟩ := hmajor.unique hmajor'
  obtain ⟨rfl, rfl⟩ := hminor.unique hminor'
  obtain ⟨rfl, rfl⟩ := hpatch.unique hpatch'
  obtain ⟨rfl, rfl⟩ := hpre.unique hpre'
  rfl

lemma Divides.eq_text (h : l.Divides s) : s = l.text := by
  obtain ⟨_, _, _, _, hmark, hmajor, hminor, hpatch, hpre⟩ := h
  rw [hmark.eq_append, hmajor.eq_append, hminor.eq_append, hpatch.eq_append, hpre.eq_append, text]
  simp only [List.append_assoc]

end Layout

section Reading

lemma takes_withoutV (s : List Char) : ∃ mark, Takes Layout.IsMark s mark (withoutV s) := by
  have hlong : ∀ p, Layout.IsMark p → p.length ≤ 1 := by
    rintro p (rfl | rfl) <;> exact le_rfl
  rw [withoutV.eq_def]
  split
  · exact ⟨['v'], rfl, .inr (.inl rfl), fun p hp _ => hlong p hp⟩
  · exact ⟨['V'], rfl, .inr (.inr rfl), fun p hp _ => hlong p hp⟩
  · next hv hV =>
    refine ⟨[], takes_nil ?_⟩
    rintro p (rfl | rfl) ⟨t, rfl⟩
    · exact hv t rfl
    · exact hV t rfl

lemma digitRun?_eq (s : List Char) : digitRun? s =
    if s.takeWhile isDecimalDigit = [] then none
    else some (s.takeWhile isDecimalDigit, s.dropWhile isDecimalDigit) := by
  rw [digitRun?]
  split
  · next h => rw [if_pos h]
  · next h => rw [if_neg (by simp [h]), h]

lemma takes_separatedRun (s : List Char) : ∃ part,
    Takes (Behind isSeparator (RunOf isDecimalDigit)) s part (separatedRun s).2 ∧
      (separatedRun s).1 = part.tail? := by
  cases s with
  | nil => exact ⟨[], takes_behind_nil, rfl⟩
  | cons c cs =>
    rw [separatedRun, digitRun?_eq]
    cases hc : isSeparator c with
    | false => exact ⟨[], takes_behind_of_not hc, rfl⟩
    | true =>
      have htakes := takes_run isDecimalDigit cs
      by_cases hrun : cs.takeWhile isDecimalDigit = []
      · rw [hrun] at htakes
        simp only [if_true, hrun]
        exact ⟨[], htakes.behind_nil fun p hp => hp.1, rfl⟩
      · simp only [if_true, if_neg hrun]
        exact ⟨_, htakes.behind hrun hc, rfl⟩

lemma takes_separatedIdentifiers (s : List Char) : ∃ part,
    Takes (Behind isSeparator Dotted) s part (separatedIdentifiers s).2 ∧
      (separatedIdentifiers s).1 = part.tail? := by
  cases s with
  | nil => exact ⟨[], takes_behind_nil, rfl⟩
  | cons c cs =>
    rw [separatedIdentifiers]
    cases hc : isSeparator c with
    | false => exact ⟨[], takes_behind_of_not hc, rfl⟩
    | true =>
      rw [if_pos rfl]
      split
      · next hrun => exact ⟨[], (takes_dotted_nil hrun).behind_nil fun p hp => hp.ne_nil, rfl⟩
      · next d run hrun =>
        have hne : cs.takeWhile isIdentifierChar ≠ [] := by simp [hrun]
        have hlist := takes_dotted hne (takes_moreIdentifiers _)
        rw [hrun] at hlist
        exact ⟨_, hlist.behind (List.cons_ne_nil _ _) hc, rfl⟩

lemma exists_divides (s : List Char) : ∃ l : Layout, l.Divides s ∧ parts? s =
    if l.major = [] then none
    else some ⟨l.major, l.minor.tail?, l.patch.tail?, l.prerelease.tail?, l.rest⟩ := by
  obtain ⟨mark, hmark⟩ := takes_withoutV s
  have hmajor := takes_run isDecimalDigit (withoutV s)
  obtain ⟨minor, hminor, hminorRun⟩ := takes_separatedRun ((withoutV s).dropWhile isDecimalDigit)
  obtain ⟨patch, hpatch, hpatchRun⟩ := takes_separatedRun (separatedRun _).2
  obtain ⟨pre, hpre, hpreList⟩ := takes_separatedIdentifiers (separatedRun _).2
  refine ⟨⟨mark, _, minor, patch, pre, _⟩, ⟨_, _, _, _, hmark, hmajor, hminor, hpatch, hpre⟩, ?_⟩
  rw [parts?, digitRun?_eq]
  split
  · rfl
  · rw [Option.map_some]
    dsimp only
    rw [hminorRun, hpatchRun, hpreList]

lemma readUInt64?_run (h : RunOf isDecimalDigit s) : readUInt64? s =
    if Layout.IsNumber s then some (.ofNat (ofDigits s)) else none := by
  have hplus : '+' ∉ s := fun hmem => absurd (h.2 '+' hmem) (by decide)
  by_cases hnumber : Layout.IsNumber s
  · have hvalue : ofDigits s = (UInt64.ofNat (ofDigits s)).toNat := (UInt64.toNat_ofNat_of_lt' hnumber.2).symm
    rw [if_pos hnumber]
    exact (readUInt64?_eq_some_iff_of_not_mem h.1 hplus).mpr ⟨hnumber.1, hvalue⟩
  · rw [if_neg hnumber, Option.eq_none_iff_forall_ne_some]
    intro u hu
    obtain ⟨hdigits, hvalue⟩ := (readUInt64?_eq_some_iff_of_not_mem h.1 hplus).mp hu
    exact hnumber ⟨hdigits, hvalue ▸ u.toNat_lt_size⟩

lemma component?_tail? (h : part = [] ∨ Behind q (RunOf isDecimalDigit) part) : component? part.tail? =
    if Layout.IsNumber part.tail then some (.ofNat (ofDigits part.tail)) else none := by
  rcases h with rfl | ⟨c, run, rfl, -, hrun⟩
  · have hzero : Layout.IsNumber [] := ⟨nofun, by decide⟩
    exact (if_pos hzero).symm
  · exact readUInt64?_run hrun

lemma kept_eq_map (s : List Char) : Layout.kept s =
    if s.isEmpty then none else some (String.ofList s) := by
  cases s <;> rfl

lemma map_tail?_eq_kept (h : part = [] ∨ Behind q Dotted part) :
    part.tail?.map String.ofList = Layout.kept part.tail := by
  rcases h with rfl | ⟨c, t, rfl, -, ht⟩
  · rfl
  · exact (if_neg ht.ne_nil).symm

lemma parseLenient?_of_divides {l : Layout} (h : l.Divides s) :
    parseLenient? s = if l.Readable then some l.version else none := by
  obtain ⟨l', hl', hparts⟩ := exists_divides s
  obtain rfl := h.unique hl'
  obtain ⟨_, _, _, _, hmark, hmajor, hminor, hpatch, hpre⟩ := h
  rw [parseLenient?, hparts]
  by_cases hfirst : l.major = []
  · simp [hfirst, Layout.Readable]
  · have hrun : component? (some l.major) = _ := readUInt64?_run (hmajor.nil_or_kind.resolve_left hfirst)
    simp only [if_neg hfirst, Option.bind_eq_bind, Option.bind_some, hrun, component?_tail? hminor.nil_or_kind,
      component?_tail? hpatch.nil_or_kind, map_tail?_eq_kept hpre.nil_or_kind, ← kept_eq_map]
    by_cases hmajorNumber : Layout.IsNumber l.major
    · by_cases hminorNumber : Layout.IsNumber l.minor.tail
      · by_cases hpatchNumber : Layout.IsNumber l.patch.tail
        · simp [Layout.Readable, hfirst, hmajorNumber, hminorNumber, hpatchNumber, Layout.version]
        · simp [Layout.Readable, hmajorNumber, hminorNumber, hpatchNumber]
      · simp [Layout.Readable, hmajorNumber, hminorNumber]
    · simp [Layout.Readable, hmajorNumber]

lemma Layout.toNat_version {l : Layout} (h : l.Readable) : l.version.major.toNat = ofDigits l.major ∧
    l.version.minor.toNat = ofDigits l.minor.tail ∧ l.version.patch.toNat = ofDigits l.patch.tail :=
  ⟨UInt64.toNat_ofNat_of_lt' h.2.1.2, UInt64.toNat_ofNat_of_lt' h.2.2.1.2, UInt64.toNat_ofNat_of_lt' h.2.2.2.2⟩

/-- A text within blanks has one layout. It is read exactly if there are digits of a first number and the
digits of all numbers are ASCII and have values of 64 bits, and these are the numbers of the version; if
it is no semantic version, then the other parts are the prerelease and the build metadata. -/
theorem parse_follows_layout (s : String) :
    ∃ l : Layout, l.Divides (trim s.toList) ∧ (∀ l', l'.Divides (trim s.toList) → l' = l) ∧
      trim s.toList = l.text ∧
      (¬ l.Readable → parse s = .error (.invalidVersion (String.ofList (trim s.toList)))) ∧
      (l.Readable → ∃ v, parse s = .ok v ∧ v.major.toNat = ofDigits l.major ∧
        v.minor.toNat = ofDigits l.minor.tail ∧ v.patch.toNat = ofDigits l.patch.tail ∧
        (¬ IsSemantic (trim s.toList) → v.prerelease = Layout.kept l.prerelease.tail ∧
          v.build = Layout.kept (trim l.rest))) := by
  obtain ⟨l, hl, -⟩ := exists_divides (trim s.toList)
  have hlenient := parseLenient?_of_divides hl
  refine ⟨l, hl, fun l' hl' => hl'.unique hl, hl.eq_text, ?_⟩
  by_cases hsemantic : IsSemantic (trim s.toList)
  · obtain ⟨a, ha⟩ := hsemantic
    obtain ⟨pre, build, hnumbers⟩ := a.parseLenient?_text
    rw [← ha, hnumbers] at hlenient
    rw [Semantic.parse_of_trim_eq ha.symm, ha]
    by_cases hfits : a.Fits
    · rw [if_pos hfits] at hlenient
      obtain ⟨hreadable, hversion⟩ := Option.ite_none_right_eq_some.mp hlenient.symm
      obtain ⟨hmajor, hminor, hpatch⟩ := Layout.toNat_version hreadable
      rw [Option.some.inj hversion] at hmajor hminor hpatch
      rw [if_pos hfits]
      exact ⟨absurd hreadable, fun _ => ⟨_, rfl, hmajor, hminor, hpatch, absurd ⟨a, ha⟩⟩⟩
    · rw [if_neg hfits] at hlenient
      have hnot : ¬ l.Readable := by simpa using hlenient.symm
      rw [if_neg hfits]
      exact ⟨fun _ => rfl, fun hreadable => absurd hreadable hnot⟩
  · rw [parse_of_not_isSemantic hsemantic, hlenient]
    by_cases hreadable : l.Readable
    · obtain ⟨hmajor, hminor, hpatch⟩ := Layout.toNat_version hreadable
      rw [if_pos hreadable]
      exact ⟨absurd hreadable, fun _ => ⟨_, rfl, hmajor, hminor, hpatch, fun _ => ⟨rfl, rfl⟩⟩⟩
    · rw [if_neg hreadable]
      exact ⟨fun _ => rfl, fun h => absurd h hreadable⟩

end Reading

end HostProbe.Version
