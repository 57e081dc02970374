import HostProbe.Proofs.Yaml.Merge
import Mathlib.Data.List.Induction
import Mathlib.Data.List.ReduceOption

/-! Documents laid over one another in turn, none of them in conflict with what was there: what the
outcome holds at a path of keys is told by what the documents hold there. -/

namespace HostProbe.Yaml

open Entries

namespace Value

def isLeaf : Value → Bool
  | .null | .mapping _ => false
  | _ => true

def at? : List Value → Value → Option Value
  | [], v => some v
  | key :: path, .mapping entries => (find? key entries).bind (at? path)
  | _ :: _, _ => none

def keysOf : Option Value → List Value
  | some (.mapping entries) => Entries.keys entries
  | _ => []

def NoTag : Value → Prop
  | .tagged _ _ => False
  | _ => True

structure Plain (v : Value) : Prop where
  distinct : v.Distinct
  tagFree : v.Throughout NoTag

variable {key v w : Value} {es : Entries} {path : List Value} {Q : Value → Prop}

lemma eq_null_of_isNull (hv : v.NoTag) (h : v.isNull) : v = .null := by
  cases v with
  | null => rfl
  | tagged => cases hv
  | _ => cases h

lemma at?_cons_of_not_mapping (h : ∀ es, v ≠ .mapping es) (key : Value) (path : List Value) :
    v.at? (key :: path) = none := by
  cases v with
  | mapping es => exact absurd rfl (h es)
  | _ => rfl

lemma at?_append (path rest : List Value) (v : Value) :
    v.at? (path ++ rest) = (v.at? path).bind (·.at? rest) := by
  induction path generalizing v with
  | nil => rfl
  | cons key path ih =>
    cases v with
    | mapping es =>
      rw [List.cons_append, at?, at?, Option.bind_assoc]
      exact Option.bind_congr fun w _ => ih w
    | _ => rfl

lemma Throughout.find? (h : (mapping es).Throughout Q) (hfind : find? key es = some v) :
    v.Throughout Q := by
  obtain ⟨e, he, rfl⟩ := Option.map_eq_some_iff.mp hfind
  exact h.of_part (value_mem_parts (List.mem_of_find?_eq_some he))

lemma Throughout.at? (h : v.Throughout Q) (hat : v.at? path = some w) : w.Throughout Q := by
  induction path generalizing v with
  | nil =>
    cases hat
    exact h
  | cons key path ih =>
    cases v with
    | mapping es =>
      obtain ⟨value, hfind, hvalue⟩ := Option.bind_eq_some_iff.mp hat
      exact ih (h.find? hfind) hvalue
    | _ => cases hat

lemma Plain.find? (h : (mapping es).Plain) (hfind : find? key es = some v) : v.Plain :=
  ⟨h.distinct.find? hfind, h.tagFree.find? hfind⟩

lemma Distinct.keys (h : (mapping es).Distinct) : ∀ k ∈ es.keys, k.Distinct := by
  intro k hk
  obtain ⟨e, he, rfl⟩ := List.mem_map.mp hk
  exact h.of_part (key_mem_parts he)

lemma plain_of_parts_eq_nil (h : v.parts = []) : v.Plain := by
  refine ⟨throughout_of_parts_eq_nil ?_ h, throughout_of_parts_eq_nil ?_ h⟩
  · cases v with
    | mapping es =>
      cases es with
      | nil => exact .nil
      | cons => cases h
    | _ => trivial
  · cases v with
    | tagged => cases h
    | _ => trivial

lemma distinct_of_parts_eq_nil (h : v.parts = []) : v.Distinct := (plain_of_parts_eq_nil h).distinct

lemma distinct_tagged (h : v.Distinct) (name : String) : (tagged name v).Distinct :=
  .intro trivial (by simpa [parts] using h)

@[simp] lemma plain_null : null.Plain := plain_of_parts_eq_nil rfl

@[simp] lemma plain_int (n : Int) : (int n).Plain := plain_of_parts_eq_nil rfl

@[simp] lemma plain_text (s : String) : (text s).Plain := plain_of_parts_eq_nil rfl

lemma plain_mapping_iff :
    (mapping es).Plain ↔ (mapping es).KeysDiffer ∧ ∀ e ∈ es, e.1.Plain ∧ e.2.Plain := by
  constructor
  · rintro ⟨hdistinct, htagFree⟩
    obtain ⟨hkeys, hdistinct⟩ := throughout_mapping_iff.mp hdistinct
    obtain ⟨-, htagFree⟩ := throughout_mapping_iff.mp htagFree
    exact ⟨hkeys, fun e he =>
      ⟨⟨(hdistinct e he).1, (htagFree e he).1⟩, ⟨(hdistinct e he).2, (htagFree e he).2⟩⟩⟩
  · rintro ⟨hkeys, hentries⟩
    refine ⟨throughout_mapping_iff.mpr ⟨hkeys, fun e he => ?_⟩,
      throughout_mapping_iff.mpr ⟨trivial, fun e he => ?_⟩⟩
    · exact ⟨(hentries e he).1.distinct, (hentries e he).2.distinct⟩
    · exact ⟨(hentries e he).1.tagFree, (hentries e he).2.tagFree⟩

lemma plain_mapping (hkeys : (mapping es).KeysDiffer) (hes : ∀ e ∈ es, e.1.Plain ∧ e.2.Plain) :
    (mapping es).Plain := plain_mapping_iff.mpr ⟨hkeys, hes⟩

lemma keysDiffer_iff : (mapping es).KeysDiffer ↔ es.keys.Pairwise fun k l => k.same l = false :=
  Iff.symm List.pairwise_map

lemma foldl_addKey_keysOf (h : v.KeysDiffer) :
    (keysOf (some v)).foldl addKey [] = keysOf (some v) := by
  cases v with
  | mapping es => exact foldl_addKey_of_pairwise (keysDiffer_iff.mp h)
  | _ => rfl

lemma keysOf_of_isLeaf (h : v.isLeaf) : keysOf (some v) = [] := by
  cases v with
  | mapping es => cases h
  | _ => rfl

end Value

open Value

section Merge

variable {base overlay : Value} {bs os : Entries} {start : List Value}

lemma mergeFrom_mapping : mergeFrom start (.mapping bs) (.mapping os) =
    (.mapping (mergeEntries start bs os).1, (mergeEntries start bs os).2) := by
  rw [mergeFrom]

lemma mergeFrom_null : mergeFrom start base .null = (base, []) := by
  cases base <;> rw [mergeFrom]

lemma mergeFrom_cases (start : List Value) (base overlay : Value) :
    (∃ bs os, base = .mapping bs ∧ overlay = .mapping os) ∨
      (overlay = .null ∧ mergeFrom start base overlay = (base, [])) ∨
      (overlay ≠ .null ∧ (∀ bs os, base = .mapping bs → overlay = .mapping os → False) ∧
        mergeFrom start base overlay = (overlay, if conflicts base overlay then [start] else [])) := by
  by_cases hnull : overlay = .null
  · exact .inr (.inl ⟨hnull, hnull ▸ mergeFrom_null⟩)
  · by_cases hboth : ∃ bs os, base = .mapping bs ∧ overlay = .mapping os
    · exact .inl hboth
    · refine .inr (.inr ⟨hnull, fun bs os hb ho => hboth ⟨bs, os, hb, ho⟩, ?_⟩)
      rw [mergeFrom]
      · exact hnull
      · exact fun bs os hb ho => hboth ⟨bs, os, hb, ho⟩

lemma throughout_mergeFrom {Q : Value → Prop}
    (hQ : ∀ start bs os, Q (.mapping bs) → Q (.mapping (mergeEntries start bs os).1))
    (hbase : base.Throughout Q) (hoverlay : overlay.Throughout Q) :
    (mergeFrom start base overlay).1.Throughout Q := by
  induction overlay using parts_induction generalizing base start with
  | h overlay ih =>
    obtain ⟨bs, os, rfl, rfl⟩ | ⟨-, hmerge⟩ | ⟨-, -, hmerge⟩ := mergeFrom_cases start base overlay
    · rw [mergeFrom_mapping]
      have hoverlayEntries := (throughout_mapping_iff.mp hoverlay).2
      refine throughout_mapping_iff.mpr ⟨hQ _ _ _ hbase.here, ?_⟩
      refine forall_mergeEntries (fun e he old hold start => ?_) (throughout_mapping_iff.mp hbase).2
        hoverlayEntries
      exact ih e.2 (value_mem_parts he) hold (hoverlayEntries e he).2
    · rw [hmerge]
      exact hbase
    · rw [hmerge]
      exact hoverlay

lemma plain_mergeFrom (hbase : base.Plain) (hoverlay : overlay.Plain) :
    (mergeFrom start base overlay).1.Plain where
  distinct := by
    refine throughout_mergeFrom (fun start bs os hbs => ?_) hbase.distinct hoverlay.distinct
    rw [keysDiffer_iff, keys_mergeEntries]
    exact pairwise_foldl_addKey (keysDiffer_iff.mp hbs)
  tagFree := throughout_mergeFrom (fun _ _ _ _ => trivial) hbase.tagFree hoverlay.tagFree

end Merge

inductive Laid : Option Value → Option Value → Option Value → Prop
  | kept (x : Option Value) : Laid x none x
  | fresh {v : Value} (hv : v.KeysDiffer) : Laid none (some v) (some v)
  | null (v : Value) : Laid (some v) (some .null) (some v)
  | filled {v : Value} (hv : v.KeysDiffer) : Laid (some .null) (some v) (some v)
  | replaced {v w : Value} (hv : v.isLeaf) (hw : w.isLeaf) : Laid (some v) (some w) (some w)
  | merged {bs os es : Entries} (hes : es.keys = os.keys.foldl addKey bs.keys) :
    Laid (some (.mapping bs)) (some (.mapping os)) (some (.mapping es))

section Laid

variable {x y z : Option Value}

lemma laid_none (h : ∀ v, y = some v → v.KeysDiffer) : Laid none y y := by
  cases y with
  | none => exact .kept none
  | some v => exact .fresh (h v rfl)

lemma Laid.filter_isLeaf (h : Laid x y z) :
    z.filter isLeaf = (y.filter isLeaf).or (x.filter isLeaf) := by
  cases h with
  | replaced hv hw => simp [Option.filter_some, hv, hw]
  | _ => simp [Option.filter_some, isLeaf]

lemma Laid.mapping_iff (h : Laid x y z) : (∃ es, z = some (.mapping es)) ↔
    (∃ es, x = some (.mapping es)) ∨ ∃ es, y = some (.mapping es) := by
  cases h with
  | @replaced v w hv hw =>
    have hnot : ∀ es, v ≠ .mapping es := by
      rintro es rfl
      cases hv
    simp [hnot]
  | _ => simp

lemma Laid.null_iff (h : Laid x y z) : z = some .null ↔
    (x = some .null ∨ y = some .null) ∧ (∀ v, x = some v → v = .null) ∧ ∀ v, y = some v → v = .null := by
  cases h with
  | kept =>
    cases x <;> simp
  | @replaced v w hv hw =>
    have hnot : w ≠ .null := by
      rintro rfl
      cases hw
    simp [hnot]
  | _ => simp

lemma Laid.only_null_iff (h : Laid x y z) : (∀ v, z = some v → v = .null) ↔
    (∀ v, x = some v → v = .null) ∧ ∀ v, y = some v → v = .null := by
  cases h with
  | @replaced v w hv hw =>
    have hnot : w ≠ .null := by
      rintro rfl
      cases hw
    simp [hnot]
  | _ => simp

lemma Laid.none_iff (h : Laid x y z) : z = none ↔ x = none ∧ y = none := by
  cases h <;> simp

lemma Laid.keysOf_eq (h : Laid x y z) : keysOf z = (keysOf y).foldl addKey (keysOf x) := by
  cases h with
  | kept => rfl
  | fresh hv => exact (foldl_addKey_keysOf hv).symm
  | null => rfl
  | filled hv => exact (foldl_addKey_keysOf hv).symm
  | replaced hv hw => rw [keysOf_of_isLeaf hv, keysOf_of_isLeaf hw]; rfl
  | merged hes => exact hes

end Laid

section At

variable {base overlay : Value} {start : List Value}

lemma null_or_isLeaf (hbase : base.NoTag) (hoverlay : overlay.NoTag) (hnull : overlay ≠ .null)
    (hboth : ∀ bs os, base = .mapping bs → overlay = .mapping os → False)
    (hconflicts : conflicts base overlay = false) :
    base = .null ∨ (base.isLeaf = true ∧ overlay.isLeaf = true) := by
  cases base with
  | null => exact .inl rfl
  | tagged => exact hbase.elim
  | mapping bs =>
    cases overlay with
    | null => exact absurd rfl hnull
    | tagged => exact hoverlay.elim
    | mapping os => exact (hboth bs os rfl rfl).elim
    | _ => cases hconflicts
  | _ =>
    cases overlay with
    | null => exact absurd rfl hnull
    | tagged => exact hoverlay.elim
    | mapping os => cases hconflicts
    | _ => exact .inr ⟨rfl, rfl⟩

lemma at?_cons_of_null_or_isLeaf {v : Value} (key : Value) (path : List Value)
    (h : v = .null ∨ v.isLeaf = true) : v.at? (key :: path) = none := by
  cases v with
  | mapping es => rcases h with h | h <;> cases h
  | _ => rfl

lemma laid_at? (path : List Value) (hbase : base.Plain) (hoverlay : overlay.Plain)
    (hnone : (mergeFrom start base overlay).2 = []) :
    Laid (base.at? path) (overlay.at? path) ((mergeFrom start base overlay).1.at? path) := by
  -- Two mappings are merged key by key, so below a key the rest of the path is looked up in what the
  -- two hold there; all else is kept or replaced as a whole.
  induction path generalizing base overlay start with
  | nil =>
    obtain ⟨bs, os, rfl, rfl⟩ | ⟨rfl, hmerge⟩ | ⟨hnull, hboth, hmerge⟩ :=
      mergeFrom_cases start base overlay
    · rw [mergeFrom_mapping]
      exact .merged keys_mergeEntries
    · rw [hmerge]
      exact .null base
    · rw [hmerge] at hnone ⊢
      have hconflicts : conflicts base overlay = false := by simpa using hnone
      rcases null_or_isLeaf hbase.tagFree.here hoverlay.tagFree.here hnull hboth hconflicts
        with rfl | ⟨hleaf, hleaf'⟩
      · exact .filled hoverlay.distinct.here
      · exact .replaced hleaf hleaf'
  | cons key path ih =>
    obtain ⟨bs, os, rfl, rfl⟩ | ⟨rfl, hmerge⟩ | ⟨hnull, hboth, hmerge⟩ :=
      mergeFrom_cases start base overlay
    · rw [mergeFrom_mapping] at hnone ⊢
      change Laid ((find? key bs).bind (at? path)) ((find? key os).bind (at? path))
        ((find? key (mergeEntries start bs os).1).bind (at? path))
      cases hoverlayKey : find? key os with
      | none =>
        rw [find?_mergeEntries_of_none start hbase.distinct.keys hoverlay.distinct.keys hoverlayKey]
        exact .kept _
      | some w =>
        have hfind := find?_mergeEntries_of_some start hbase.distinct.keys
          hoverlay.distinct.keys (keysDiffer_iff.mp hoverlay.distinct.here) hoverlayKey
        have hw : w.Plain := hoverlay.find? hoverlayKey
        cases hbaseKey : find? key bs with
        | none =>
          rw [hbaseKey] at hfind
          rw [hfind]
          exact laid_none fun v hv => (hw.distinct.at? hv).here
        | some old =>
          rw [hbaseKey] at hfind
          obtain ⟨start', hmerged, hwarnings⟩ := hfind
          rw [hmerged]
          exact ih (hbase.find? hbaseKey) hw (List.eq_nil_of_subset_nil (hnone ▸ hwarnings))
    · rw [hmerge]
      exact .kept _
    · rw [hmerge] at hnone ⊢
      have hconflicts : conflicts base overlay = false := by simpa using hnone
      have hleaf := null_or_isLeaf hbase.tagFree.here hoverlay.tagFree.here hnull hboth hconflicts
      rw [at?_cons_of_null_or_isLeaf key path (hleaf.imp_right And.left)]
      exact laid_none fun v hv => (hoverlay.distinct.at? hv).here

end At

structure Outline (ys : List (Option Value)) (m : Option Value) : Prop where
  leaf : m.filter isLeaf = (ys.reduceOption.filter isLeaf).getLast?
  mapping : (∃ es, m = some (.mapping es)) ↔ ∃ es, some (.mapping es) ∈ ys
  null : m = some .null ↔ some .null ∈ ys ∧ ∀ v, some v ∈ ys → v = .null
  absent : m = none ↔ ∀ y ∈ ys, y = none
  keys : keysOf m = firstKeys (ys.flatMap keysOf)

section Outline

variable {ys : List (Option Value)} {m m' y : Option Value}

lemma outline_singleton (h : ∀ v, y = some v → v.KeysDiffer) : Outline [y] y where
  leaf := by
    cases y with
    | none => rfl
    | some v => cases hv : v.isLeaf <;> simp [Option.filter_some, List.reduceOption, hv]
  mapping := by simp [eq_comm]
  null := by
    cases y <;> simp [eq_comm]
  absent := by simp
  keys := by
    rw [List.flatMap_singleton, firstKeys]
    cases y with
    | none => rfl
    | some v => exact (foldl_addKey_keysOf (h v rfl)).symm

lemma Outline.only_null_iff (h : Outline ys m) :
    (∀ v, m = some v → v = .null) ↔ ∀ v, some v ∈ ys → v = .null := by
  constructor
  · intro honly v hv
    cases m with
    | none => cases h.absent.mp rfl _ hv
    | some w =>
      cases honly w rfl
      exact (h.null.mp rfl).2 v hv
  · rintro honly v rfl
    have hsome : ∃ w, some w ∈ ys := by
      by_contra hnot
      have hall : ∀ y ∈ ys, y = none := fun y hy =>
        Option.eq_none_iff_forall_ne_some.mpr fun w hw => hnot ⟨w, hw ▸ hy⟩
      cases h.absent.mpr hall
    obtain ⟨w, hw⟩ := hsome
    cases honly w hw
    exact Option.some.inj (h.null.mpr ⟨hw, honly⟩)

lemma Outline.snoc (h : Outline ys m) (hlaid : Laid m y m') : Outline (ys ++ [y]) m' where
  leaf := by
    rw [hlaid.filter_isLeaf, h.leaf, List.reduceOption_append, List.filter_append, List.getLast?_append]
    congr 1
    cases y with
    | none => rfl
    | some v => cases hv : v.isLeaf <;> simp [Option.filter_some, List.reduceOption, hv]
  mapping := by
    rw [hlaid.mapping_iff, h.mapping]
    simp [exists_or, eq_comm]
  null := by
    rw [hlaid.null_iff, h.null, h.only_null_iff]
    simp only [List.mem_append, List.mem_singleton, or_imp, forall_and, eq_comm (a := y)]
    tauto
  absent := by
    rw [hlaid.none_iff, h.absent]
    simp [or_imp, forall_and]
  keys := by
    rw [hlaid.keysOf_eq, h.keys, firstKeys, firstKeys, List.flatMap_append, List.foldl_append,
      List.flatMap_singleton]

end Outline

section MergeAll

variable {base overlay : Value} {overlays : List Value}

lemma mergeAll_snoc (base : Value) (overlays : List Value) (overlay : Value) :
    mergeAll base (overlays ++ [overlay]) =
      ((merge (mergeAll base overlays).1 overlay).1,
        (mergeAll base overlays).2 ++ (merge (mergeAll base overlays).1 overlay).2) := by
  rw [mergeAll, List.foldl_append]
  rfl

lemma plain_mergeAll (h : ∀ v ∈ base :: overlays, v.Plain) : (mergeAll base overlays).1.Plain := by
  induction overlays using List.reverseRecOn with
  | nil => exact h base List.mem_cons_self
  | append_singleton overlays overlay ih =>
    rw [← List.cons_append, List.forall_mem_append, List.forall_mem_singleton] at h
    rw [mergeAll_snoc]
    exact plain_mergeFrom (ih h.1) h.2

lemma outline_mergeAll (h : ∀ v ∈ base :: overlays, v.Plain) (hnone : (mergeAll base overlays).2 = [])
    (path : List Value) :
    Outline ((base :: overlays).map (·.at? path)) ((mergeAll base overlays).1.at? path) := by
  induction overlays using List.reverseRecOn with
  | nil =>
    exact outline_singleton fun v hv => ((h base List.mem_cons_self).distinct.at? hv).here
  | append_singleton overlays overlay ih =>
    rw [← List.cons_append, List.forall_mem_append, List.forall_mem_singleton] at h
    rw [mergeAll_snoc] at hnone ⊢
    obtain ⟨hbefore, hlast⟩ := List.append_eq_nil_iff.mp hnone
    rw [← List.cons_append, List.map_append]
    exact (ih h.1 hbefore).snoc (laid_at? path (plain_mergeAll h.1) h.2 hlast)

/-- What documents hold at a path that were laid over one another without a conflict: the last value
there is that is neither a mapping nor null; a mapping where one of them has one, with the keys of them
all in the order of their first appearance; null where there is nothing but null; and nothing where none
of them has the path. -/
theorem mergeAll_outlined_at_every_path (h : ∀ v ∈ base :: overlays, v.Plain)
    (hnone : (mergeAll base overlays).2 = []) (path : List Value) :
    let held := (base :: overlays).map (·.at? path)
    let merged := (mergeAll base overlays).1.at? path
    Outline held merged ∧ (keysOf merged).Pairwise (fun k l => k.same l = false) ∧
      ∀ y ∈ held, ∀ key ∈ keysOf y, ∃ k ∈ keysOf merged, k.same key = true := by
  have houtline := outline_mergeAll h hnone path
  refine ⟨houtline, houtline.keys ▸ pairwise_firstKeys _, fun y hy key hkey => ?_⟩
  exact houtline.keys ▸ exists_same_firstKeys (List.mem_flatMap.mpr ⟨y, hy, hkey⟩)

theorem mergeAll_outlined_at_every_path_of_two :
    let base := Value.mapping [(.text "a", .null), (.text "b", .int 1)]
    let overlay := Value.mapping [(.text "c", .null), (.text "a", .int 2)]
    (∀ v ∈ [base, overlay], v.Plain) ∧ (mergeAll base [overlay]).2 = [] ∧
      Outline [some .null, some (.int 2)] ((mergeAll base [overlay]).1.at? [.text "a"]) := by
  intro base overlay
  have hnull : Value.null.Plain := plain_of_parts_eq_nil rfl
  have hint (n : Int) : (Value.int n).Plain := plain_of_parts_eq_nil rfl
  have htext (s : String) : (Value.text s).Plain := plain_of_parts_eq_nil rfl
  have hbase : base.Plain := plain_mapping (by simp [KeysDiffer, same]) (by simp [hnull, hint, htext])
  have hoverlay : overlay.Plain :=
    plain_mapping (by simp [KeysDiffer, same]) (by simp [hnull, hint, htext])
  have hplain : ∀ v ∈ [base, overlay], v.Plain := by simp [hbase, hoverlay]
  have hnone : (mergeAll base [overlay]).2 = [] := by decide +kernel
  exact ⟨hplain, hnone, (mergeAll_outlined_at_every_path hplain hnone [.text "a"]).1⟩

end MergeAll

end HostProbe.Yaml
