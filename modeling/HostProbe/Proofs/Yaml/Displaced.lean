import HostProbe.Proofs.Yaml.Layers

/-! What is lost without a conflict where a document is laid over another. Mappings are only merged key by
key where neither has a tag; the search for conflicts looks through tags. So a mapping with a tag, or one
laid over such a one, takes its whole place, and the keys that it does not have itself are gone. -/

namespace HostProbe.Yaml

open Entries

namespace Value

def beneath? : List Value → Value → Option Value
  | [], v => some v
  | key :: path, v =>
    match v.untagged with
    | .mapping entries => (find? key entries).bind (beneath? path)
    | _ => none

variable {v : Value} {es : Entries} {key : Value} {path : List Value}

lemma beneath?_mapping : (mapping es).beneath? (key :: path) = (find? key es).bind (beneath? path) := rfl

lemma isMapping_of_beneath? (h : v.beneath? (key :: path) ≠ none) : v.isMapping := by
  rw [beneath?] at h
  rw [isMapping]
  cases hv : v.untagged with
  | mapping es => rfl
  | _ =>
    rw [hv] at h
    exact absurd rfl h

lemma isNull_of_isMapping (h : v.isMapping) : v.isNull = false := by
  rw [isMapping] at h
  rw [isNull]
  cases hv : v.untagged with
  | null =>
    rw [hv] at h
    cases h
  | _ => rfl

lemma exists_eq_mapping (htag : v.NoTag) (h : v.isMapping) : ∃ es, v = .mapping es := by
  cases v with
  | mapping es => exact ⟨es, rfl⟩
  | tagged => exact htag.elim
  | _ => cases h

end Value

open Value

/-- At the beginning of a path both documents hold a mapping below its tags, if it has any; one of the two
has some, and the mapping of the overlay does not lead on along the rest of the path. -/
def Displaced (base overlay : Value) (path : List Value) : Prop :=
  ∃ above below b o, path = above ++ below ∧ base.at? above = some b ∧ overlay.at? above = some o ∧
    b.isMapping ∧ o.isMapping ∧ ¬ (b.NoTag ∧ o.NoTag) ∧ o.beneath? below = none

section Displaced

variable {base overlay key : Value} {bs os : Entries} {path start : List Value}

lemma not_displaced_nil (base overlay : Value) : ¬ Displaced base overlay [] := by
  rintro ⟨above, below, b, o, hpath, -, -, -, -, -, hlost⟩
  obtain ⟨rfl, rfl⟩ := List.append_eq_nil_iff.mp hpath.symm
  cases hlost

lemma not_displaced_null (base : Value) (path : List Value) : ¬ Displaced base .null path := by
  rintro ⟨above, below, b, o, -, -, hoverlay, -, hmapping, -⟩
  cases above with
  | nil =>
    cases hoverlay
    cases hmapping
  | cons key above => cases hoverlay

lemma displaced_mapping_iff : Displaced (.mapping bs) (.mapping os) (key :: path) ↔
    ∃ old w, find? key bs = some old ∧ find? key os = some w ∧ Displaced old w path := by
  constructor
  · rintro ⟨above, below, b, o, hpath, hb, ho, hbmap, homap, htag, hlost⟩
    cases above with
    | nil =>
      cases hb
      cases ho
      exact absurd ⟨trivial, trivial⟩ htag
    | cons k above =>
      obtain ⟨rfl, rfl⟩ := List.cons.inj hpath
      obtain ⟨old, hold, hb⟩ := Option.bind_eq_some_iff.mp hb
      obtain ⟨w, hw, ho⟩ := Option.bind_eq_some_iff.mp ho
      exact ⟨old, w, hold, hw, above, below, b, o, rfl, hb, ho, hbmap, homap, htag, hlost⟩
  · rintro ⟨old, w, hold, hw, above, below, b, o, rfl, hb, ho, hrest⟩
    exact ⟨key :: above, below, b, o, rfl, by rw [at?, hold]; exact hb, by rw [at?, hw]; exact ho, hrest⟩

lemma displaced_iff_of_not_both (hboth : ∀ bs os, base = .mapping bs → overlay = .mapping os → False)
    (hbase : base.isMapping) (hoverlay : overlay.isMapping) :
    Displaced base overlay path ↔ overlay.beneath? path = none := by
  have htag : ¬ (base.NoTag ∧ overlay.NoTag) := by
    rintro ⟨hbaseTag, hoverlayTag⟩
    obtain ⟨bs, rfl⟩ := exists_eq_mapping hbaseTag hbase
    obtain ⟨os, rfl⟩ := exists_eq_mapping hoverlayTag hoverlay
    exact hboth bs os rfl rfl
  constructor
  · rintro ⟨above, below, b, o, rfl, hb, ho, -, -, -, hlost⟩
    cases above with
    | nil =>
      cases ho
      exact hlost
    | cons key above =>
      by_cases hmapping : ∃ bs, base = .mapping bs
      · obtain ⟨bs, rfl⟩ := hmapping
        rw [at?_cons_of_not_mapping fun os hos => hboth bs os rfl hos] at ho
        cases ho
      · rw [at?_cons_of_not_mapping (not_exists.mp hmapping)] at hb
        cases hb
  · exact fun hlost => ⟨[], path, base, overlay, rfl, rfl, rfl, hbase, hoverlay, htag, hlost⟩

lemma beneath?_mergeFrom_eq_none_iff (hbase : base.Distinct) (hoverlay : overlay.Distinct)
    (hnone : (mergeFrom start base overlay).2 = []) (hheld : base.beneath? path ≠ none) :
    (mergeFrom start base overlay).1.beneath? path = none ↔ Displaced base overlay path := by
  induction path generalizing base overlay start with
  | nil => simp [beneath?, not_displaced_nil]
  | cons key path ih =>
    obtain ⟨bs, os, rfl, rfl⟩ | ⟨rfl, hmerge⟩ | ⟨hnull, hboth, hmerge⟩ :=
      mergeFrom_cases start base overlay
    · rw [mergeFrom_mapping] at hnone ⊢
      rw [displaced_mapping_iff, beneath?_mapping]
      rw [beneath?_mapping] at hheld
      obtain ⟨old, hold⟩ : ∃ old, find? key bs = some old := by
        cases hold : find? key bs with
        | none =>
          rw [hold] at hheld
          exact absurd rfl hheld
        | some old => exact ⟨old, rfl⟩
      rw [hold] at hheld
      cases hw : find? key os with
      | none =>
        rw [find?_mergeEntries_of_none start hbase.keys hoverlay.keys hw, hold]
        simpa using hheld
      | some w =>
        have hfind := find?_mergeEntries_of_some start hbase.keys hoverlay.keys
          (keysDiffer_iff.mp hoverlay.here) hw
        rw [hold] at hfind
        obtain ⟨start', hmerged, hwarnings⟩ := hfind
        have hbelow := ih (hbase.find? hold) (hoverlay.find? hw)
          (List.eq_nil_of_subset_nil (hnone ▸ hwarnings)) hheld
        rw [hmerged, hold]
        simpa using hbelow
    · rw [hmerge]
      exact iff_of_false hheld (not_displaced_null base _)
    · have hbasemap : base.isMapping := isMapping_of_beneath? hheld
      have hconflicts : conflicts base overlay = false := by simpa [hmerge] using hnone
      have hoverlaymap : overlay.isMapping := by
        simpa [conflicts, hbasemap, isNull_of_isMapping hbasemap] using hconflicts
      rw [hmerge, displaced_iff_of_not_both hboth hbasemap hoverlaymap]

lemma not_displaced_of_tagFree (hbase : base.Throughout NoTag) (hoverlay : overlay.Throughout NoTag)
    (path : List Value) : ¬ Displaced base overlay path := by
  rintro ⟨above, below, b, o, -, hb, ho, -, -, htag, -⟩
  exact htag ⟨(hbase.at? hb).here, (hoverlay.at? ho).here⟩

/-- Where nothing is reported, a key path of the base leads nowhere any more exactly if a mapping along it
was displaced by one that does not have the rest of the path, one of the two having a tag. So nothing is
lost where neither document has tags. -/
theorem path_is_lost_iff_displaced (hbase : base.Distinct) (hoverlay : overlay.Distinct)
    (hnone : (merge base overlay).2 = []) (path : List Value) (hheld : base.beneath? path ≠ none) :
    ((merge base overlay).1.beneath? path = none ↔ Displaced base overlay path) ∧
      (base.Throughout NoTag → overlay.Throughout NoTag → (merge base overlay).1.beneath? path ≠ none) := by
  have hlost : (merge base overlay).1.beneath? path = none ↔ Displaced base overlay path :=
    beneath?_mergeFrom_eq_none_iff hbase hoverlay hnone hheld
  refine ⟨hlost, fun hbaseTag hoverlayTag => ?_⟩
  rw [Ne, hlost]
  exact not_displaced_of_tagFree hbaseTag hoverlayTag path

theorem path_is_lost_iff_displaced_by_tag :
    let base := Value.mapping [(.text "a", .mapping [(.text "x", .int 1), (.text "y", .int 2)])]
    let overlay := Value.mapping [(.text "a", .tagged "t" (.mapping [(.text "y", .int 3)]))]
    base.Distinct ∧ overlay.Distinct ∧ (merge base overlay).2 = [] ∧
      base.beneath? [.text "a", .text "x"] ≠ none ∧ base.beneath? [.text "a", .text "y"] ≠ none ∧
      Displaced base overlay [.text "a", .text "x"] ∧ ¬ Displaced base overlay [.text "a", .text "y"] := by
  intro base overlay
  have hbase : base.Distinct := by
    simp [base, throughout_mapping_iff, KeysDiffer, same, Plain.distinct]
  have hoverlay : overlay.Distinct := by
    simp [overlay, throughout_mapping_iff, KeysDiffer, Plain.distinct, distinct_tagged]
  have hx : base.beneath? [.text "a", .text "x"] ≠ none := by rintro ⟨⟩
  have hy : base.beneath? [.text "a", .text "y"] ≠ none := by rintro ⟨⟩
  have hlost := (path_is_lost_iff_displaced hbase hoverlay rfl [.text "a", .text "x"] hx).1
  have hkept := (path_is_lost_iff_displaced hbase hoverlay rfl [.text "a", .text "y"] hy).1
  refine ⟨hbase, hoverlay, rfl, hx, hy, hlost.mp rfl, fun h => ?_⟩
  cases hkept.mpr h

/-- A mapping with a tag takes the place of another one, and nothing is reported. -/
theorem tagged_mapping_drops_keys :
    let base := Value.mapping [(.text "a", .tagged "t" (.mapping [(.text "x", .int 1)]))]
    let overlay := Value.mapping [(.text "a", .tagged "t" (.mapping [(.text "y", .int 2)]))]
    base.Distinct ∧ overlay.Distinct ∧ (merge base overlay).2 = [] ∧
      base.beneath? [.text "a", .text "x"] = some (.int 1) ∧
      (merge base overlay).1.beneath? [.text "a", .text "x"] = none := by
  intro base overlay
  have hbase : base.Distinct := by
    simp [base, throughout_mapping_iff, KeysDiffer, Plain.distinct, distinct_tagged]
  have hoverlay : overlay.Distinct := by
    simp [overlay, throughout_mapping_iff, KeysDiffer, Plain.distinct, distinct_tagged]
  exact ⟨hbase, hoverlay, rfl, rfl, rfl⟩

end Displaced

end HostProbe.Yaml
