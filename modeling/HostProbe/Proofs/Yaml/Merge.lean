import HostProbe.Proofs.Yaml.Key
import HostProbe.Yaml.Merge
import Mathlib.Data.List.Induction

/-! What a document holds after another one was laid over it. A key of both holds what the overlay's
value laid over the base's gives, a key of one of them what it held there; keys of the base keep their
places and the others follow. -/

namespace HostProbe.Yaml

variable {key q value old v w : Value} {es rest base overlay : Entries} {start : List Value}

namespace Entries

def keys (es : Entries) : List Value := es.map (·.1)

def addKey (seen : List Value) (key : Value) : List Value :=
  if seen.any (·.same key) then seen else seen ++ [key]

def firstKeys (keys : List Value) : List Value := keys.foldl addKey []

@[simp] lemma keys_nil : keys [] = [] := rfl

@[simp] lemma keys_cons (e : Value × Value) : keys (e :: es) = e.1 :: keys es := rfl

@[simp] lemma keys_append : keys (base ++ es) = keys base ++ keys es := List.map_append

lemma find?_cons (e : Value × Value) :
    find? q (e :: es) = if e.1.same q then some e.2 else find? q es := by
  cases h : e.1.same q <;> simp [find?, h]

lemma find?_append : find? q (base ++ es) = (find? q base).or (find? q es) := by
  induction base with
  | nil => rfl
  | cons e base ih =>
    rw [List.cons_append, find?_cons, find?_cons, ih]
    split <;> rfl

lemma find?_eq_none_iff : find? q es = none ↔ ∀ k ∈ es.keys, k.same q = false := by
  simp [find?, keys]

lemma find?_of_mem (hdiffer : es.Pairwise fun e f => e.1.same f.1 = false) {e : Value × Value}
    (he : e ∈ es) : find? e.1 es = some e.2 := by
  induction es with
  | nil => cases he
  | cons f rest ih =>
    obtain ⟨hothers, hdiffer⟩ := List.pairwise_cons.mp hdiffer
    rw [find?_cons]
    rcases List.mem_cons.mp he with rfl | he
    · rw [e.1.same_refl, if_pos rfl]
    · rw [hothers e he, if_neg Bool.false_ne_true, ih hdiffer he]

lemma eq_of_find?_eq {es' : Entries} (hdiffer : es.Pairwise fun e f => e.1.same f.1 = false)
    (hkeys : es.keys = es'.keys) (h : ∀ e ∈ es, find? e.1 es' = some e.2) : es = es' := by
  induction es generalizing es' with
  | nil => exact (List.map_eq_nil_iff.mp hkeys.symm).symm
  | cons e rest ih =>
    cases es' with
    | nil => cases hkeys
    | cons f rest' =>
      obtain ⟨hothers, hdiffer⟩ := List.pairwise_cons.mp hdiffer
      obtain ⟨hkey : e.1 = f.1, hkeys : keys rest = keys rest'⟩ := List.cons.inj hkeys
      obtain ⟨hfirst, hrest⟩ := List.forall_mem_cons.mp h
      rw [find?_cons, ← hkey, e.1.same_refl, if_pos rfl] at hfirst
      have hef : e = f := Prod.ext hkey (Option.some.inj hfirst).symm
      have htail : rest = rest' := by
        refine ih hdiffer hkeys fun e' he' => ?_
        have hfind := hrest e' he'
        rwa [find?_cons, ← hkey, hothers e' he', if_neg Bool.false_ne_true] at hfind
      rw [hef, htail]

lemma find?_congr (hkey : key.Distinct) (h : key.same q = true) : find? key es = find? q es := by
  simp only [find?, Value.same_congr_right hkey h]

lemma any_same_keys : es.keys.any (·.same q) = (find? q es).isSome := by
  induction es with
  | nil => rfl
  | cons e es ih =>
    rw [keys_cons, List.any_cons, ih, find?_cons]
    cases e.1.same q <;> rfl

lemma keys_replace : (replace key value es).keys = es.keys := by
  induction es with
  | nil => rfl
  | cons e rest ih =>
    rw [replace]
    split
    · rfl
    · exact congrArg (e.1 :: ·) ih

lemma replace_self (h : find? key es = some value) : replace key value es = es := by
  induction es with
  | nil => rfl
  | cons e rest ih =>
    obtain ⟨k, v⟩ := e
    rw [find?_cons] at h
    rw [replace]
    cases hsame : k.same key with
    | true =>
      rw [hsame] at h
      cases h
      rfl
    | false =>
      rw [hsame] at h
      rw [if_neg Bool.false_ne_true, ih h]

lemma find?_replace (hkey : key.Distinct) (hes : ∀ k ∈ es.keys, k.Distinct)
    (h : find? key es = some old) :
    find? q (replace key value es) = if key.same q then some value else find? q es := by
  induction es with
  | nil => cases h
  | cons e rest ih =>
    obtain ⟨k, v⟩ := e
    obtain ⟨hk, hrest⟩ := List.forall_mem_cons.mp hes
    rw [replace]
    cases hsame : k.same key with
    | true =>
      rw [if_pos rfl, find?_cons, find?_cons, Value.same_congr_left hk hsame q]
      cases key.same q <;> rfl
    | false =>
      rw [find?_cons, hsame] at h
      rw [if_neg Bool.false_ne_true, find?_cons, find?_cons, ih hrest h]
      cases hq : key.same q with
      | false => rfl
      | true =>
        rw [Value.same_congr_right hkey hq k] at hsame
        rw [hsame]
        rfl

lemma forall_replace {P : Value → Prop} (hes : ∀ e ∈ es, P e.1 ∧ P e.2) (hvalue : P value) :
    ∀ e ∈ replace key value es, P e.1 ∧ P e.2 := by
  induction es with
  | nil => exact hes
  | cons e rest ih =>
    obtain ⟨he, hrest⟩ := List.forall_mem_cons.mp hes
    rw [replace]
    split
    · exact List.forall_mem_cons.mpr ⟨⟨he.1, hvalue⟩, hrest⟩
    · exact List.forall_mem_cons.mpr ⟨he, ih hrest⟩

section FirstKeys

variable {seen ks : List Value}

lemma pairwise_addKey (h : seen.Pairwise fun k l => k.same l = false) :
    (addKey seen key).Pairwise fun k l => k.same l = false := by
  rw [addKey]
  split
  · exact h
  · next hnew =>
    refine List.pairwise_append.mpr ⟨h, List.pairwise_singleton .., fun k hk l hl => ?_⟩
    cases List.mem_singleton.mp hl
    exact Bool.eq_false_iff.mpr fun hsame => hnew (List.any_eq_true.mpr ⟨k, hk, hsame⟩)

lemma pairwise_foldl_addKey (h : seen.Pairwise fun k l => k.same l = false) :
    (ks.foldl addKey seen).Pairwise fun k l => k.same l = false := by
  induction ks generalizing seen with
  | nil => exact h
  | cons k ks ih => exact ih (pairwise_addKey h)

lemma forall_addKey {P : Value → Prop} (hseen : ∀ k ∈ seen, P k) (hkey : P key) :
    ∀ k ∈ addKey seen key, P k := by
  rw [addKey]
  split
  · exact hseen
  · exact List.forall_mem_append.mpr ⟨hseen, List.forall_mem_singleton.mpr hkey⟩

lemma subset_addKey : seen ⊆ addKey seen key := by
  rw [addKey]
  split
  · exact List.Subset.refl _
  · exact List.subset_append_left ..

lemma subset_foldl_addKey : seen ⊆ ks.foldl addKey seen := by
  induction ks generalizing seen with
  | nil => exact List.Subset.refl _
  | cons k ks ih => exact List.Subset.trans subset_addKey ih

lemma exists_same_addKey (seen : List Value) (key : Value) :
    ∃ k ∈ addKey seen key, k.same key = true := by
  rw [addKey]
  split
  · next hseen => exact List.any_eq_true.mp hseen
  · exact ⟨key, by simp, key.same_refl⟩

lemma exists_same_foldl_addKey (h : key ∈ ks) (seen : List Value) :
    ∃ k ∈ ks.foldl addKey seen, k.same key = true := by
  obtain ⟨left, right, rfl⟩ := List.append_of_mem h
  obtain ⟨k, hk, hsame⟩ := exists_same_addKey (left.foldl addKey seen) key
  rw [List.foldl_append, List.foldl_cons]
  exact ⟨k, subset_foldl_addKey hk, hsame⟩

lemma exists_same_firstKeys (h : key ∈ ks) : ∃ k ∈ firstKeys ks, k.same key = true :=
  exists_same_foldl_addKey h []

lemma addKey_of_same {k : Value} (hk : k ∈ seen) (hsame : k.same key = true) : addKey seen key = seen :=
  if_pos (List.any_eq_true.mpr ⟨k, hk, hsame⟩)

lemma foldl_addKey_foldl_addKey (ks ls seen : List Value) :
    (ls.foldl addKey ks).foldl addKey seen = ls.foldl addKey (ks.foldl addKey seen) := by
  induction ls using List.reverseRecOn with
  | nil => rfl
  | append_singleton ls key ih =>
    rw [List.foldl_append, List.foldl_append, ← ih, List.foldl_cons, List.foldl_nil, List.foldl_cons,
      List.foldl_nil]
    by_cases hseen : ∃ k ∈ ls.foldl addKey ks, k.same key = true
    · obtain ⟨k, hk, hsame⟩ := hseen
      obtain ⟨k', hk', hsame'⟩ := exists_same_foldl_addKey hk seen
      rw [addKey_of_same hk hsame, addKey_of_same hk' (Value.same_trans hsame' hsame)]
    · have hadd : addKey (ls.foldl addKey ks) key = ls.foldl addKey ks ++ [key] :=
        if_neg fun h => hseen (List.any_eq_true.mp h)
      rw [hadd, List.foldl_append, List.foldl_cons, List.foldl_nil]

lemma pairwise_firstKeys (ks : List Value) :
    (firstKeys ks).Pairwise fun k l => k.same l = false := pairwise_foldl_addKey .nil

lemma foldl_addKey_of_pairwise (h : (seen ++ ks).Pairwise fun k l => k.same l = false) :
    ks.foldl addKey seen = seen ++ ks := by
  induction ks generalizing seen with
  | nil => exact (List.append_nil _).symm
  | cons k ks ih =>
    have hnew : seen.any (·.same k) = false := List.any_eq_false.mpr fun l hl => by
      simp [(List.pairwise_append.mp h).2.2 l hl k List.mem_cons_self]
    have hadd : addKey seen k = seen ++ [k] := by rw [addKey, hnew]; rfl
    rw [List.foldl_cons, hadd, ih (by simpa using h), List.append_assoc]
    rfl

end FirstKeys

end Entries

open Entries

def layEntry (start : List Value) (base : Entries) (e : Value × Value) : Entries × List (List Value) :=
  match find? e.1 base with
  | some old =>
    let merged := mergeFrom (start ++ [e.1]) old e.2
    (replace e.1 merged.1 base, merged.2)
  | none => (base ++ [e], [])

lemma mergeEntries_cons (start : List Value) (base : Entries) (e : Value × Value) (rest : Entries) :
    mergeEntries start base (e :: rest) =
      ((mergeEntries start (layEntry start base e).1 rest).1,
        (layEntry start base e).2 ++ (mergeEntries start (layEntry start base e).1 rest).2) := by
  rw [mergeEntries, layEntry]
  cases find? e.1 base <;> rfl

section LayEntry

variable {e : Value × Value}

lemma keys_layEntry : (layEntry start base e).1.keys = addKey base.keys e.1 := by
  rw [layEntry, addKey, any_same_keys]
  cases find? e.1 base with
  | none => simp
  | some old => simp [keys_replace]

lemma distinct_keys_layEntry (start : List Value) (hbase : ∀ k ∈ base.keys, k.Distinct)
    (he : e.1.Distinct) :
    ∀ k ∈ (layEntry start base e).1.keys, k.Distinct := by
  rw [keys_layEntry]
  exact forall_addKey hbase he

lemma find?_layEntry_of_not_same (hbase : ∀ k ∈ base.keys, k.Distinct) (he : e.1.Distinct)
    (h : e.1.same q = false) : find? q (layEntry start base e).1 = find? q base := by
  rw [layEntry]
  cases hfind : find? e.1 base with
  | none => simp [h, find?]
  | some old => simp [find?_replace he hbase hfind, h]

lemma find?_layEntry_of_none (he : e.1.Distinct) (h : e.1.same q = true)
    (hbase : find? q base = none) : find? q (layEntry start base e).1 = some e.2 := by
  rw [layEntry, find?_congr he h, hbase]
  simp [find?_append, find?_cons, h, hbase]

lemma find?_layEntry_of_some (hbase : ∀ k ∈ base.keys, k.Distinct) (he : e.1.Distinct)
    (h : e.1.same q = true) (hold : find? q base = some old) :
    find? q (layEntry start base e).1 = some (mergeFrom (start ++ [e.1]) old e.2).1 ∧
      (layEntry start base e).2 = (mergeFrom (start ++ [e.1]) old e.2).2 := by
  have hfind : find? e.1 base = some old := (find?_congr he h).trans hold
  rw [layEntry, hfind]
  simp [find?_replace he hbase hfind, h]

end LayEntry

lemma keys_mergeEntries :
    (mergeEntries start base overlay).1.keys = overlay.keys.foldl addKey base.keys := by
  induction overlay generalizing base with
  | nil => rw [mergeEntries]; rfl
  | cons e rest ih => rw [mergeEntries_cons, ih, keys_layEntry, keys_cons, List.foldl_cons]

lemma find?_mergeEntries_of_none (start : List Value) (hbase : ∀ k ∈ base.keys, k.Distinct)
    (hoverlay : ∀ k ∈ overlay.keys, k.Distinct) (hq : find? q overlay = none) :
    find? q (mergeEntries start base overlay).1 = find? q base := by
  induction overlay generalizing base with
  | nil => rw [mergeEntries]
  | cons e rest ih =>
    obtain ⟨he, hrest⟩ := List.forall_mem_cons.mp hoverlay
    obtain ⟨hnot, hnone⟩ := List.forall_mem_cons.mp (find?_eq_none_iff.mp hq)
    have hlaid := distinct_keys_layEntry start hbase he
    rw [mergeEntries_cons, ih hlaid hrest (find?_eq_none_iff.mpr hnone),
      find?_layEntry_of_not_same hbase he hnot]

lemma find?_mergeEntries_of_some (start : List Value) (hbase : ∀ k ∈ base.keys, k.Distinct)
    (hoverlay : ∀ k ∈ overlay.keys, k.Distinct)
    (hdiffer : overlay.keys.Pairwise fun k l => k.same l = false) (hq : find? q overlay = some w) :
    match find? q base with
    | none => find? q (mergeEntries start base overlay).1 = some w
    | some old => ∃ start', find? q (mergeEntries start base overlay).1 = some (mergeFrom start' old w).1 ∧
        (mergeFrom start' old w).2 ⊆ (mergeEntries start base overlay).2 := by
  induction overlay generalizing base with
  | nil => cases hq
  | cons e rest ih =>
    obtain ⟨he, hrest⟩ := List.forall_mem_cons.mp hoverlay
    obtain ⟨hothers, hdiffer⟩ := List.pairwise_cons.mp hdiffer
    have hlaid := distinct_keys_layEntry start hbase he
    rw [find?_cons] at hq
    rw [mergeEntries_cons]
    cases hsame : e.1.same q with
    | true =>
      have hlast : find? q rest = none := find?_eq_none_iff.mpr fun k hk => by
        rw [← Value.same_congr_right he hsame, Bool.eq_false_iff]
        exact fun h => by simpa [Value.same_symm (hrest k hk) h] using hothers k hk
      rw [hsame] at hq
      cases hq
      rw [find?_mergeEntries_of_none start hlaid hrest hlast]
      cases hold : find? q base with
      | none => exact find?_layEntry_of_none he hsame hold
      | some old =>
        obtain ⟨hfind, hwarnings⟩ := find?_layEntry_of_some hbase he hsame hold
        exact ⟨_, hfind, hwarnings ▸ List.subset_append_left _ _⟩
    | false =>
      rw [hsame] at hq
      have hfind := ih hlaid hrest hdiffer hq
      rw [find?_layEntry_of_not_same hbase he hsame] at hfind
      cases hold : find? q base with
      | none =>
        rw [hold] at hfind
        exact hfind
      | some old =>
        rw [hold] at hfind
        obtain ⟨start', hmerged, hwarnings⟩ := hfind
        exact ⟨start', hmerged, List.subset_append_of_subset_right _ hwarnings⟩

lemma warnings_mergeEntries (start : List Value) (hbase : ∀ k ∈ base.keys, k.Distinct)
    (hoverlay : ∀ k ∈ overlay.keys, k.Distinct)
    (hdiffer : overlay.Pairwise fun e f => e.1.same f.1 = false) :
    (mergeEntries start base overlay).2 = overlay.flatMap fun e =>
      (find? e.1 base).elim [] fun old => (mergeFrom (start ++ [e.1]) old e.2).2 := by
  induction overlay generalizing base with
  | nil => rw [mergeEntries]; rfl
  | cons e rest ih =>
    obtain ⟨he, hrest⟩ := List.forall_mem_cons.mp hoverlay
    obtain ⟨hothers, hdiffer⟩ := List.pairwise_cons.mp hdiffer
    have hentry : (layEntry start base e).2 =
        (find? e.1 base).elim [] fun old => (mergeFrom (start ++ [e.1]) old e.2).2 := by
      rw [layEntry]
      cases find? e.1 base <;> rfl
    rw [mergeEntries_cons, List.flatMap_cons]
    refine congrArg₂ (· ++ ·) hentry ?_
    rw [ih (distinct_keys_layEntry start hbase he) hrest hdiffer]
    refine List.flatMap_congr fun f hf => ?_
    rw [find?_layEntry_of_not_same hbase he (hothers f hf)]

section Throughout

variable {P Q : Value → Prop}

lemma forall_layEntry {e : Value × Value} (hmerge : ∀ old, P old → ∀ start, P (mergeFrom start old e.2).1)
    (hbase : ∀ e ∈ base, P e.1 ∧ P e.2) (he : P e.1 ∧ P e.2) :
    ∀ f ∈ (layEntry start base e).1, P f.1 ∧ P f.2 := by
  rw [layEntry]
  cases h : find? e.1 base with
  | none => exact List.forall_mem_append.mpr ⟨hbase, List.forall_mem_singleton.mpr he⟩
  | some old =>
    obtain ⟨e', hfind, rfl⟩ := Option.map_eq_some_iff.mp h
    exact forall_replace hbase (hmerge _ (hbase e' (List.mem_of_find?_eq_some hfind)).2 _)

lemma forall_mergeEntries
    (hmerge : ∀ e ∈ overlay, ∀ old, P old → ∀ start, P (mergeFrom start old e.2).1)
    (hbase : ∀ e ∈ base, P e.1 ∧ P e.2) (hoverlay : ∀ e ∈ overlay, P e.1 ∧ P e.2) :
    ∀ e ∈ (mergeEntries start base overlay).1, P e.1 ∧ P e.2 := by
  induction overlay generalizing base with
  | nil => rwa [mergeEntries]
  | cons e rest ih =>
    obtain ⟨hmergeEntry, hmerge⟩ := List.forall_mem_cons.mp hmerge
    obtain ⟨he, hrest⟩ := List.forall_mem_cons.mp hoverlay
    rw [mergeEntries_cons]
    exact ih hmerge (forall_layEntry hmergeEntry hbase he) hrest

end Throughout

end HostProbe.Yaml
