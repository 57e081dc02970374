import HostProbe.Proofs.Yaml.Layers
import HostProbe.Proofs.Yaml.Printer

/-! The conflicts that are reported where a document is laid over another: the key paths where both hold
something and just one of the two a mapping, in the order in which the overlay has its keys. A path is
shown as the texts of its keys with points between them. -/

namespace HostProbe.Yaml

open Entries HostProbe.Text

namespace Value

mutual

/-- The key paths of a document: each stands before those that go on from it, and these follow the keys. -/
def paths : Value → List (List Value)
  | .mapping entries => [] :: pathsBelow entries
  | _ => [[]]

def pathsBelow : List (Value × Value) → List (List Value)
  | [] => []
  | (key, v) :: rest => (paths v).map (key :: ·) ++ pathsBelow rest

end

abbrev SamePath : List Value → List Value → Prop := List.Forall₂ fun k l => k.same l = true

variable {v w : Value} {es : Entries} {key : Value} {p q path : List Value}

lemma paths_mapping (es : Entries) :
    (mapping es).paths = [] :: es.flatMap fun e => e.2.paths.map (e.1 :: ·) := by
  have hbelow : pathsBelow es = es.flatMap fun e => e.2.paths.map (e.1 :: ·) := by
    induction es with
    | nil => rfl
    | cons e rest ih => rw [pathsBelow, ih, List.flatMap_cons]
  rw [paths, hbelow]

lemma mem_paths_mapping : p ∈ (mapping es).paths ↔ p = [] ∨ ∃ e ∈ es, ∃ q ∈ e.2.paths, p = e.1 :: q := by
  simp [paths_mapping, eq_comm]

lemma paths_of_not_mapping (h : ∀ es, v ≠ .mapping es) : v.paths = [[]] := by
  cases v with
  | mapping es => exact absurd rfl (h es)
  | _ => rfl

lemma filter_paths {f : List Value → Bool} (h : ∀ key path, f (key :: path) = false) :
    v.paths.filter f = [[]].filter f := by
  by_cases hmapping : ∃ es, v = .mapping es
  · obtain ⟨es, rfl⟩ := hmapping
    have hbelow : (es.flatMap fun e => e.2.paths.map (e.1 :: ·)).filter f = [] := by
      refine List.filter_eq_nil_iff.mpr fun p hp => ?_
      obtain ⟨e, -, hp⟩ := List.mem_flatMap.mp hp
      obtain ⟨q, -, rfl⟩ := List.mem_map.mp hp
      simp [h]
    rw [paths_mapping, ← List.singleton_append, List.filter_append, hbelow, List.append_nil]
  · rw [paths_of_not_mapping (not_exists.mp hmapping)]

lemma distinct_of_mem_paths (h : v.Distinct) (hp : p ∈ v.paths) : ∀ k ∈ p, k.Distinct := by
  induction v using parts_induction generalizing p with
  | h v ih =>
    by_cases hmapping : ∃ es, v = .mapping es
    · obtain ⟨es, rfl⟩ := hmapping
      obtain rfl | ⟨e, he, q, hq, rfl⟩ := mem_paths_mapping.mp hp
      · simp
      · have hbelow := ih e.2 (value_mem_parts he) (h.of_part (value_mem_parts he)) hq
        exact List.forall_mem_cons.mpr ⟨h.of_part (key_mem_parts he), hbelow⟩
    · rw [paths_of_not_mapping (not_exists.mp hmapping), List.mem_singleton] at hp
      simp [hp]

lemma pairwise_paths (h : v.Distinct) : v.paths.Pairwise fun p q => ¬ SamePath p q := by
  induction v using parts_induction with
  | h v ih =>
    by_cases hmapping : ∃ es, v = .mapping es
    · obtain ⟨es, rfl⟩ := hmapping
      rw [paths_mapping, List.pairwise_cons, List.pairwise_flatMap]
      refine ⟨fun p hp hsame => ?_, fun e he => ?_, ?_⟩
      · obtain ⟨e, -, hp⟩ := List.mem_flatMap.mp hp
        obtain ⟨q, -, rfl⟩ := List.mem_map.mp hp
        cases hsame
      · refine List.pairwise_map.mpr ?_
        refine List.Pairwise.imp ?_ (ih e.2 (value_mem_parts he) (h.of_part (value_mem_parts he)))
        intro p q hpq hsame
        exact hpq (List.forall₂_cons.mp hsame).2
      · refine List.Pairwise.imp ?_ h.here
        intro e f hef p hp q hq hsame
        obtain ⟨p, -, rfl⟩ := List.mem_map.mp hp
        obtain ⟨q, -, rfl⟩ := List.mem_map.mp hq
        rw [(List.forall₂_cons.mp hsame).1] at hef
        cases hef
    · rw [paths_of_not_mapping (not_exists.mp hmapping)]
      exact List.pairwise_singleton _ _

lemma at?_congr (hp : ∀ k ∈ p, k.Distinct) (h : SamePath p q) : v.at? p = v.at? q := by
  induction h generalizing v with
  | nil => rfl
  | cons hkey _ ih =>
    obtain ⟨hk, hp⟩ := List.forall_mem_cons.mp hp
    cases v with
    | mapping es =>
      rw [at?, at?, find?_congr hk hkey]
      exact Option.bind_congr fun w _ => ih hp
    | _ => rfl

lemma exists_mem_paths (h : v.at? path = some w) : ∃ p ∈ v.paths, SamePath p path := by
  induction path generalizing v with
  | nil =>
    refine ⟨[], ?_, .nil⟩
    cases v with
    | mapping es => exact mem_paths_mapping.mpr (.inl rfl)
    | _ => exact List.mem_singleton.mpr rfl
  | cons key path ih =>
    cases v with
    | mapping es =>
      obtain ⟨value, hfind, hvalue⟩ := Option.bind_eq_some_iff.mp h
      obtain ⟨e, he, rfl⟩ := Option.map_eq_some_iff.mp hfind
      obtain ⟨p, hp, hsame⟩ := ih hvalue
      have hkey : e.1.same key = true := List.find?_some (p := fun f : Value × Value => f.1.same key) he
      have hmem : e.1 :: p ∈ (mapping es).paths :=
        mem_paths_mapping.mpr (.inr ⟨e, List.mem_of_find?_eq_some he, p, hp, rfl⟩)
      exact ⟨e.1 :: p, hmem, .cons hkey hsame⟩
    | _ => cases h

end Value

open Value

/-- Whether there is a conflict between what two documents hold in one place: something other than null in
both, and just one of the two a mapping. -/
def clash : Option Value → Option Value → Bool
  | some v, some w => !v.isNull && !w.isNull && v.isMapping != w.isMapping
  | _, _ => false

structure ClashAt (base overlay : Value) (path : List Value) : Prop where
  here : ∃ v w, base.at? path = some v ∧ overlay.at? path = some w ∧ v ≠ .null ∧ w ≠ .null ∧
    (v.isMapping ↔ ¬ w.isMapping)
  above : ∀ front, front <+: path → front ≠ path →
    ∃ bs os, base.at? front = some (.mapping bs) ∧ overlay.at? front = some (.mapping os)

section Clash

variable {base overlay v w : Value} {x y : Option Value} {path front back : List Value} {key : Value}
  {bs os : Entries}

lemma clash_comm (x y : Option Value) : clash x y = clash y x := by
  cases x with
  | none => cases y <;> rfl
  | some v =>
    cases y with
    | none => rfl
    | some w => rw [clash, clash, Bool.and_comm (!v.isNull), bne_comm]

lemma clash_none_right (x : Option Value) : clash x none = false := clash_comm x none

lemma exists_of_clash (h : clash x y = true) : ∃ w, y = some w := by
  cases y with
  | none =>
    rw [clash_none_right] at h
    cases h
  | some w => exact ⟨w, rfl⟩

lemma clash_null_right (x : Option Value) : clash x (some .null) = false := by
  cases x with
  | none => rfl
  | some v => simp [clash, isNull, untagged]

lemma clash_mappings : clash (some (.mapping bs)) (some (.mapping os)) = false := rfl

lemma isNull_iff (htag : v.NoTag) : v.isNull = true ↔ v = .null :=
  ⟨eq_null_of_isNull htag, fun h => h ▸ rfl⟩

lemma clash_iff (hv : ∀ v, x = some v → v.NoTag) (hw : ∀ w, y = some w → w.NoTag) :
    clash x y = true ↔ ∃ v w, x = some v ∧ y = some w ∧ v ≠ .null ∧ w ≠ .null ∧
      (v.isMapping ↔ ¬ w.isMapping) := by
  cases x with
  | none => simp [clash]
  | some v =>
    cases y with
    | none => simp [clash]
    | some w =>
      have hdiffer : (v.isMapping != w.isMapping) = true ↔ (v.isMapping ↔ ¬ w.isMapping) := by
        cases v.isMapping <;> cases w.isMapping <;> simp
      have hclash : clash (some v) (some w) = true ↔
          (¬ v.isNull ∧ ¬ w.isNull) ∧ (v.isMapping ↔ ¬ w.isMapping) := by
        simp only [clash, Bool.and_eq_true, hdiffer, Bool.not_eq_true', Bool.not_eq_true]
      simp [hclash, isNull_iff (hv v rfl), isNull_iff (hw w rfl), and_assoc]

lemma exists_mapping_of_at?_append (h : v.at? (front ++ key :: back) = some w) :
    ∃ es, v.at? front = some (.mapping es) := by
  rw [at?_append] at h
  obtain ⟨u, hu, hat⟩ := Option.bind_eq_some_iff.mp h
  cases u with
  | mapping es => exact ⟨es, hu⟩
  | _ => cases hat

lemma clashAt_iff (hbase : base.Plain) (hoverlay : overlay.Plain) :
    clash (base.at? path) (overlay.at? path) = true ↔ ClashAt base overlay path := by
  rw [clash_iff (fun v hv => (hbase.tagFree.at? hv).here) fun w hw => (hoverlay.tagFree.at? hw).here]
  refine ⟨fun h => ⟨h, ?_⟩, ClashAt.here⟩
  obtain ⟨v, w, hv, hw, -⟩ := h
  rintro front ⟨back, rfl⟩ hne
  cases back with
  | nil => exact absurd (List.append_nil front).symm hne
  | cons key back =>
    obtain ⟨bs, hbs⟩ := exists_mapping_of_at?_append hv
    obtain ⟨os, hos⟩ := exists_mapping_of_at?_append hw
    exact ⟨bs, os, hbs, hos⟩

lemma clash_below (hboth : ∀ bs os, base = .mapping bs → overlay = .mapping os → False) (key : Value)
    (path : List Value) : clash (base.at? (key :: path)) (overlay.at? (key :: path)) = false := by
  by_cases hbase : ∃ bs, base = .mapping bs
  · obtain ⟨bs, rfl⟩ := hbase
    rw [at?_cons_of_not_mapping (v := overlay) fun os hos => hboth bs os rfl hos]
    exact clash_none_right _
  · rw [at?_cons_of_not_mapping (not_exists.mp hbase)]
    rfl

lemma conflicts_eq_clash (hoverlay : overlay.NoTag) (hnull : overlay ≠ .null) :
    conflicts base overlay = clash (some base) (some overlay) := by
  have hnotNull : overlay.isNull = false := by
    rw [← Bool.not_eq_true, isNull_iff hoverlay]
    exact hnull
  rw [conflicts, clash, hnotNull, Bool.not_false, Bool.and_true, Bool.and_comm]

lemma warnings_mergeFrom (hbase : base.Plain) (hoverlay : overlay.Plain) (start : List Value) :
    (mergeFrom start base overlay).2 =
      (overlay.paths.filter fun p => clash (base.at? p) (overlay.at? p)).map (start ++ ·) := by
  -- Entries of two mappings are told of by what the base held at first; below a value that is kept or
  -- replaced as a whole, one of the two holds nothing.
  induction overlay using parts_induction generalizing base start with
  | h overlay ih =>
    obtain ⟨bs, os, rfl, rfl⟩ | ⟨rfl, hmerge⟩ | ⟨hnull, hboth, hmerge⟩ :=
      mergeFrom_cases start base overlay
    · rw [mergeFrom_mapping, warnings_mergeEntries start hbase.distinct.keys hoverlay.distinct.keys
        hoverlay.distinct.here, paths_mapping, List.filter_cons_of_neg (by simp [at?, clash_mappings]),
        List.filter_flatMap, List.map_flatMap]
      refine List.flatMap_congr fun e he => ?_
      have hover : find? e.1 os = some e.2 := find?_of_mem hoverlay.distinct.here he
      rw [List.filter_map, List.map_map]
      cases hold : find? e.1 bs with
      | none =>
        have hnone : ∀ p, clash ((mapping bs).at? (e.1 :: p)) ((mapping os).at? (e.1 :: p)) = false :=
          fun p => by rw [at?, hold]; rfl
        simp [hnone, Function.comp_def]
      | some old =>
        have hat : ∀ p, clash ((mapping bs).at? (e.1 :: p)) ((mapping os).at? (e.1 :: p)) =
            clash (old.at? p) (e.2.at? p) := fun p => by rw [at?, at?, hold, hover]; rfl
        have hvalue := ih e.2 (value_mem_parts he) (hbase.find? hold) (hoverlay.find? hover)
        simp [hat, hvalue, Function.comp_def]
    · simp [hmerge, paths, at?, clash_null_right]
    · rw [hmerge, conflicts_eq_clash hoverlay.tagFree.here hnull,
        filter_paths fun key path => clash_below hboth key path, List.filter_singleton]
      change _ = List.map _ (bif clash (some base) (some overlay) then [[]] else [])
      cases clash (some base) (some overlay) <;> simp

lemma warnings_eq_nil_iff (hbase : base.Plain) (hoverlay : overlay.Plain) (start : List Value) :
    (mergeFrom start base overlay).2 = [] ↔
      ∀ path, clash (base.at? path) (overlay.at? path) = false := by
  rw [warnings_mergeFrom hbase hoverlay, List.map_eq_nil_iff, List.filter_eq_nil_iff]
  refine ⟨fun h path => ?_, fun h p _ => by simp [h p]⟩
  cases hat : overlay.at? path with
  | none => exact clash_none_right _
  | some w =>
    obtain ⟨p, hp, hsame⟩ := exists_mem_paths hat
    have hkeys := distinct_of_mem_paths hoverlay.distinct hp
    have hclash := h p hp
    rwa [at?_congr hkeys hsame, at?_congr hkeys hsame, hat, Bool.not_eq_true] at hclash

end Clash

section Shown

variable {key : Value} {rest path : List Value} {first : String} {texts : List String}

lemma joinWith_ne_empty (h : first ≠ "") (sep : String) : joinWith sep (first :: texts) ≠ "" := by
  induction texts generalizing first with
  | nil => exact h
  | cons text texts ih =>
    have hnext : first ++ sep ++ text ≠ "" := by simp [h]
    exact ih hnext

lemma foldl_keyText (h : first ≠ "") :
    rest.foldl (fun parent key => if parent.isEmpty then keyText key else parent ++ "." ++ keyText key)
      first = joinWith "." (first :: rest.map keyText) := by
  induction rest generalizing first with
  | nil => rfl
  | cons key rest ih =>
    have hnext : first ++ "." ++ keyText key ≠ "" := by simp [h]
    rw [List.foldl_cons, if_neg (by simpa using h), ih hnext]
    rfl

lemma pathText_cons (h : keyText key ≠ "") (rest : List Value) :
    pathText (key :: rest) = joinWith "." ((key :: rest).map keyText) := by
  have htext : (key :: rest).foldl (fun parent key => if parent.isEmpty then keyText key
      else parent ++ "." ++ keyText key) "" = joinWith "." ((key :: rest).map keyText) := foldl_keyText h
  have hne : joinWith "." ((key :: rest).map keyText) ≠ "" := joinWith_ne_empty h "."
  rw [pathText, htext]
  exact if_neg (by simpa using hne)

end Shown

section Reported

variable {base overlay : Value}

/-- What is reported where one document is laid over another: the key paths of the overlay, in its own
order, at which the two are in conflict. They are all such paths, and none of them comes twice. A path
whose first key has a text is shown as its keys with points between them, the empty one as the root. -/
theorem conflicts_are_reported_once_in_order (hbase : base.Plain) (hoverlay : overlay.Plain) :
    let reported := (merge base overlay).2
    reported = overlay.paths.filter (fun p => clash (base.at? p) (overlay.at? p)) ∧
      (∀ path, (∃ p ∈ reported, SamePath p path) ↔ ClashAt base overlay path) ∧
      reported.Pairwise (fun p q => ¬ SamePath p q) ∧
      ∀ p ∈ reported, (∀ key ∈ p.head?, key ≠ .text "" ∧ key.hasText) →
        pathText p = if p.isEmpty then "<root>" else joinWith "." (p.map keyText) := by
  intro reported
  have hreported : reported = overlay.paths.filter (fun p => clash (base.at? p) (overlay.at? p)) := by
    have hall := warnings_mergeFrom hbase hoverlay []
    simpa [reported, merge] using hall
  refine ⟨hreported, fun path => ?_, ?_, fun p _ hkeys => ?_⟩
  · rw [← clashAt_iff hbase hoverlay, hreported]
    constructor
    · rintro ⟨p, hp, hsame⟩
      obtain ⟨hmem, hclash⟩ := List.mem_filter.mp hp
      have hdistinct := distinct_of_mem_paths hoverlay.distinct hmem
      rwa [at?_congr hdistinct hsame, at?_congr hdistinct hsame] at hclash
    · intro hclash
      obtain ⟨w, hat⟩ := exists_of_clash hclash
      obtain ⟨p, hp, hsame⟩ := exists_mem_paths hat
      have hdistinct := distinct_of_mem_paths hoverlay.distinct hp
      refine ⟨p, List.mem_filter.mpr ⟨hp, ?_⟩, hsame⟩
      rwa [at?_congr hdistinct hsame, at?_congr hdistinct hsame]
  · rw [hreported]
    exact (pairwise_paths hoverlay.distinct).filter _
  · cases p with
    | nil => rfl
    | cons key rest =>
      obtain ⟨hempty, htext⟩ := hkeys key rfl
      have hkeyText : keyText key ≠ "" := by simp [keyText_eq_empty_iff, hempty, htext]
      exact pathText_cons hkeyText rest

theorem conflicts_are_reported_once_in_order_of_section :
    let base := Value.mapping [(.text "a", .mapping [(.text "b", .int 1)]), (.text "c", .int 2)]
    let overlay := Value.mapping [(.text "c", .null), (.text "a", .mapping [(.text "b", .mapping [])])]
    base.Plain ∧ overlay.Plain ∧ (merge base overlay).2 = [[.text "a", .text "b"]] ∧
      (∀ key ∈ [Value.text "a", .text "b"].head?, key ≠ .text "" ∧ key.hasText) ∧
      pathText [.text "a", .text "b"] = "a.b" := by
  intro base overlay
  have hbase : base.Plain := by
    simp [base, plain_mapping_iff, KeysDiffer, same]
  have hoverlay : overlay.Plain := by
    simp [overlay, plain_mapping_iff, KeysDiffer, same]
  have hreported : (merge base overlay).2 = [[.text "a", .text "b"]] := rfl
  have hkeys : ∀ key ∈ [Value.text "a", .text "b"].head?, key ≠ .text "" ∧ key.hasText := by
    simp [hasText]
  obtain ⟨-, -, -, hshown⟩ := conflicts_are_reported_once_in_order hbase hoverlay
  refine ⟨hbase, hoverlay, hreported, hkeys, ?_⟩
  exact hshown _ (hreported ▸ List.mem_singleton.mpr rfl) hkeys

/-- A key that cannot be written has no text, though it is not the empty text: a conflict at it is shown as
one of the root. -/
theorem unwritable_key_is_shown_as_root :
    let key := Value.mapping [(.mapping [(.text "a", .int 1)], .text "b")]
    let base := Value.mapping [(key, .mapping [(.text "x", .int 1)])]
    let overlay := Value.mapping [(key, .int 2)]
    base.Plain ∧ overlay.Plain ∧ (∀ p ∈ base.paths ++ overlay.paths, .text "" ∉ p) ∧
      (merge base overlay).2 = [[key]] ∧ pathText [key] = "<root>" ∧
      joinWith "." ([key].map keyText) ≠ "<root>" := by
  intro key base overlay
  have hbase : base.Plain := by simp [base, key, plain_mapping_iff, KeysDiffer]
  have hoverlay : overlay.Plain := by simp [overlay, key, plain_mapping_iff, KeysDiffer]
  have hnamed : ∀ p ∈ base.paths ++ overlay.paths, .text "" ∉ p := by
    simp [base, overlay, key, paths, pathsBelow]
  have htext : keyText key = "" := keyText_eq_empty_iff.mpr (.inr rfl)
  refine ⟨hbase, hoverlay, hnamed, rfl, ?_, ?_⟩
  · simp [pathText, htext]
  · simp [htext, joinWith]

end Reported

end HostProbe.Yaml
