import HostProbe.Proofs.Yaml.Conflict

/-! Laws of laying documents over one another. Once a document was laid over another, to lay it over the
outcome again changes nothing. Of three documents no two of which are in conflict, it does not matter which
two are laid over one another first. -/

namespace HostProbe.Yaml

open Entries Value

section Again

variable {v w base overlay : Value} {bs os : Entries} {e : Value × Value}

def Absorbs (v w : Value) : Prop := ∀ start, mergeFrom start v w = (v, [])

lemma layEntry_of_absorbs (hfind : find? e.1 bs = some v) (h : Absorbs v e.2) (start : List Value) :
    layEntry start bs e = (bs, []) := by
  rw [layEntry, hfind]
  simp [h _, replace_self hfind]

lemma mergeEntries_of_absorbs (h : ∀ e ∈ os, ∃ v, find? e.1 bs = some v ∧ Absorbs v e.2)
    (start : List Value) : mergeEntries start bs os = (bs, []) := by
  induction os with
  | nil => rw [mergeEntries]
  | cons e rest ih =>
    obtain ⟨⟨v, hfind, habsorbs⟩, hrest⟩ := List.forall_mem_cons.mp h
    rw [mergeEntries_cons, layEntry_of_absorbs hfind habsorbs, ih hrest]
    rfl

lemma absorbs_mapping (h : ∀ e ∈ os, ∃ v, find? e.1 bs = some v ∧ Absorbs v e.2) :
    Absorbs (.mapping bs) (.mapping os) := fun start => by
  rw [mergeFrom_mapping, mergeEntries_of_absorbs h]

lemma absorbs_self (h : v.Distinct) : Absorbs v v := by
  induction v using parts_induction with
  | h v ih =>
    by_cases hmapping : ∃ es, v = .mapping es
    · obtain ⟨es, rfl⟩ := hmapping
      refine absorbs_mapping fun e he => ⟨e.2, find?_of_mem h.here he, ?_⟩
      exact ih e.2 (value_mem_parts he) (h.of_part (value_mem_parts he))
    · intro start
      obtain ⟨es, -, hes, -⟩ | ⟨-, hmerge⟩ | ⟨-, -, hmerge⟩ := mergeFrom_cases start v v
      · exact absurd ⟨es, hes⟩ hmapping
      · exact hmerge
      · simp [hmerge, conflicts]

lemma absorbs_mergeFrom (hbase : base.Distinct) (hoverlay : overlay.Distinct) (start : List Value) :
    Absorbs (mergeFrom start base overlay).1 overlay := by
  -- What the overlay put in or replaced as a whole is laid over itself the second time.
  induction overlay using parts_induction generalizing base start with
  | h overlay ih =>
    obtain ⟨bs, os, rfl, rfl⟩ | ⟨rfl, hmerge⟩ | ⟨-, -, hmerge⟩ := mergeFrom_cases start base overlay
    · rw [mergeFrom_mapping]
      refine absorbs_mapping fun e he => ?_
      have hvalue : e.2.Distinct := hoverlay.of_part (value_mem_parts he)
      have hfind := find?_mergeEntries_of_some start hbase.keys hoverlay.keys
        (keysDiffer_iff.mp hoverlay.here) (find?_of_mem hoverlay.here he)
      cases hold : find? e.1 bs with
      | none =>
        rw [hold] at hfind
        exact ⟨e.2, hfind, absorbs_self hvalue⟩
      | some old =>
        rw [hold] at hfind
        obtain ⟨start', hmerged, -⟩ := hfind
        exact ⟨_, hmerged, ih e.2 (value_mem_parts he) (hbase.find? hold) hvalue start'⟩
    · intro start'
      rw [hmerge, mergeFrom_null]
    · rw [hmerge]
      exact absorbs_self hoverlay

/-- A document that was laid over another one changes nothing when it is laid over the outcome again, and
nothing is reported then. -/
theorem merge_again_changes_nothing (hbase : base.Distinct) (hoverlay : overlay.Distinct) :
    merge (merge base overlay).1 overlay = ((merge base overlay).1, []) :=
  absorbs_mergeFrom hbase hoverlay [] []

theorem merge_again_changes_nothing_of_tag :
    let base := Value.mapping [(.text "a", .int 1), (.text "b", .mapping [])]
    let overlay := Value.mapping [(.text "c", .null), (.text "b", .tagged "t" .null), (.text "a", .null)]
    base.Distinct ∧ overlay.Distinct ∧
      merge (merge base overlay).1 overlay = ((merge base overlay).1, []) ∧
      (merge base overlay).2 = [[.text "b"]] := by
  intro base overlay
  have hbase : base.Distinct := by
    simp [base, throughout_mapping_iff, KeysDiffer, same, Plain.distinct]
  have hoverlay : overlay.Distinct := by
    simp [overlay, throughout_mapping_iff, KeysDiffer, same, Plain.distinct, distinct_tagged]
  exact ⟨hbase, hoverlay, merge_again_changes_nothing hbase hoverlay, rfl⟩

end Again

section Alike

variable {x y z xy yz left right : Option Value} {v w : Value}

structure Alike (x y : Option Value) : Prop where
  leaf : x.filter isLeaf = y.filter isLeaf
  mapping : (∃ es, x = some (.mapping es)) ↔ ∃ es, y = some (.mapping es)
  null : x = some .null ↔ y = some .null
  keys : keysOf x = keysOf y

lemma eq_of_alike (hv : v.Distinct) (h : ∀ path, Alike (v.at? path) (w.at? path)) : v = w := by
  induction v using parts_induction generalizing w with
  | h v ih =>
    have hroot : Alike (some v) (some w) := h []
    cases v with
    | null => exact (Option.some.inj (hroot.null.mp rfl)).symm
    | mapping es =>
      obtain ⟨es', hw⟩ := hroot.mapping.mp ⟨es, rfl⟩
      cases hw
      have hkeys : keys es = keys es' := hroot.keys
      refine congrArg Value.mapping (eq_of_find?_eq hv.here hkeys fun e he => ?_)
      have hfind : find? e.1 es = some e.2 := find?_of_mem hv.here he
      have hthere : (find? e.1 es').isSome = true := by
        rw [← any_same_keys, ← hkeys, any_same_keys, hfind]
        rfl
      obtain ⟨w, hw⟩ := Option.isSome_iff_exists.mp hthere
      have hbelow : ∀ path, Alike (e.2.at? path) (w.at? path) := fun path => by
        have hpath := h (e.1 :: path)
        rwa [at?, at?, hfind, hw] at hpath
      rw [hw, ih e.2 (value_mem_parts he) (hv.of_part (value_mem_parts he)) hbelow]
    | _ =>
      have hleaf : some _ = Option.filter isLeaf (some w) := hroot.leaf
      obtain ⟨hw, -⟩ := Option.filter_eq_some_iff.mp hleaf.symm
      exact (Option.some.inj hw).symm

lemma alike_of_laid (hxy : Laid x y xy) (hleft : Laid xy z left) (hyz : Laid y z yz)
    (hright : Laid x yz right) : Alike left right where
  leaf := by
    rw [hleft.filter_isLeaf, hxy.filter_isLeaf, hright.filter_isLeaf, hyz.filter_isLeaf, Option.or_assoc]
  mapping := by rw [hleft.mapping_iff, hxy.mapping_iff, hright.mapping_iff, hyz.mapping_iff, or_assoc]
  null := by
    rw [hleft.null_iff, hxy.null_iff, hxy.only_null_iff, hright.null_iff, hyz.null_iff, hyz.only_null_iff]
    tauto
  keys := by
    rw [hleft.keysOf_eq, hxy.keysOf_eq, hright.keysOf_eq, hyz.keysOf_eq, foldl_addKey_foldl_addKey]

end Alike

section Associative

variable {x y z held : Option Value} {a b c : Value}

lemma clash_of_laid_left (h : Laid x y z) (hx : clash x held = false) (hy : clash y held = false) :
    clash z held = false := by
  cases h with
  | kept => exact hx
  | null => exact hx
  | fresh => exact hy
  | filled => exact hy
  | replaced => exact hy
  | merged => cases held <;> exact hx

lemma clash_of_laid_right (h : Laid x y z) (hx : clash held x = false) (hy : clash held y = false) :
    clash held z = false := by
  rw [clash_comm] at hx hy ⊢
  exact clash_of_laid_left h hx hy

/-- Of three documents no two of which are in conflict, it does not matter which two are laid over one
another first, and nothing is reported either way. -/
theorem merge_assoc_of_no_conflict (ha : a.Plain) (hb : b.Plain) (hc : c.Plain)
    (hab : (merge a b).2 = []) (hbc : (merge b c).2 = []) (hac : (merge a c).2 = []) :
    merge (merge a b).1 c = merge a (merge b c).1 ∧ (merge (merge a b).1 c).2 = [] := by
  have hlaidAB (path : List Value) := laid_at? path ha hb hab
  have hlaidBC (path : List Value) := laid_at? path hb hc hbc
  have hplainAB : (merge a b).1.Plain := plain_mergeFrom ha hb
  have hplainBC : (merge b c).1.Plain := plain_mergeFrom hb hc
  have hclashAB := (warnings_eq_nil_iff ha hb []).mp hab
  have hclashBC := (warnings_eq_nil_iff hb hc []).mp hbc
  have hclashAC := (warnings_eq_nil_iff ha hc []).mp hac
  -- What comes of two of them is in conflict with the third nowhere, as neither of the two is.
  have hleft : (merge (merge a b).1 c).2 = [] := (warnings_eq_nil_iff hplainAB hc []).mpr fun path =>
    clash_of_laid_left (hlaidAB path) (hclashAC path) (hclashBC path)
  have hright : (merge a (merge b c).1).2 = [] := (warnings_eq_nil_iff ha hplainBC []).mpr fun path =>
    clash_of_laid_right (hlaidBC path) (hclashAB path) (hclashAC path)
  have hsame : (merge (merge a b).1 c).1 = (merge a (merge b c).1).1 := by
    refine eq_of_alike (plain_mergeFrom hplainAB hc).distinct fun path => ?_
    exact alike_of_laid (hlaidAB path) (laid_at? path hplainAB hc hleft) (hlaidBC path)
      (laid_at? path ha hplainBC hright)
  exact ⟨Prod.ext hsame (hleft.trans hright.symm), hleft⟩

theorem merge_assoc_of_no_conflict_of_sections :
    let a := Value.mapping [(.text "s", .mapping [(.text "x", .int 1)])]
    let b := Value.mapping [(.text "s", .null), (.text "t", .null)]
    let c := Value.mapping [(.text "t", .int 2), (.text "s", .mapping [(.text "y", .int 3)])]
    a.Plain ∧ b.Plain ∧ c.Plain ∧ (merge a b).2 = [] ∧ (merge b c).2 = [] ∧ (merge a c).2 = [] ∧
      merge (merge a b).1 c = merge a (merge b c).1 := by
  intro a b c
  have ha : a.Plain := by simp [a, plain_mapping_iff, KeysDiffer]
  have hb : b.Plain := by simp [b, plain_mapping_iff, KeysDiffer, same]
  have hc : c.Plain := by simp [c, plain_mapping_iff, KeysDiffer, same]
  exact ⟨ha, hb, hc, rfl, rfl, rfl, (merge_assoc_of_no_conflict ha hb hc rfl rfl rfl).1⟩

end Associative

end HostProbe.Yaml
