import HostProbe.Yaml.Value
import Mathlib.Data.List.Forall2
import Mathlib.Tactic.Common

/-! When two values are the same key. Every value is the same as itself, and values that are the same as
one another in turn are the same. The order of the two does not matter where no mapping has a key
twice: each entry of a mapping is looked up in the other, and the two have as many. -/

namespace HostProbe.Yaml

namespace Value

def parts : Value → List Value
  | .list items => items
  | .mapping entries => entries.map (·.1) ++ entries.map (·.2)
  | .tagged _ v => [v]
  | _ => []

lemma key_mem_parts {entries : Entries} {e : Value × Value} (h : e ∈ entries) :
    e.1 ∈ (mapping entries).parts := List.mem_append_left _ (List.mem_map_of_mem h)

lemma value_mem_parts {entries : Entries} {e : Value × Value} (h : e ∈ entries) :
    e.2 ∈ (mapping entries).parts := List.mem_append_right _ (List.mem_map_of_mem h)

lemma exists_entry_of_mem_parts {entries : Entries} {w : Value} (h : w ∈ (mapping entries).parts) :
    ∃ e ∈ entries, w = e.1 ∨ w = e.2 := by
  rcases List.mem_append.mp h with hkey | hvalue
  · obtain ⟨e, he, rfl⟩ := List.mem_map.mp hkey
    exact ⟨e, he, .inl rfl⟩
  · obtain ⟨e, he, rfl⟩ := List.mem_map.mp hvalue
    exact ⟨e, he, .inr rfl⟩

lemma sizeOf_lt_of_mem_parts {v w : Value} (h : w ∈ v.parts) : sizeOf w < sizeOf v := by
  cases v with
  | list items =>
    have hitem : sizeOf w < sizeOf items := List.sizeOf_lt_of_mem h
    rw [list.sizeOf_spec]
    omega
  | mapping entries =>
    obtain ⟨⟨key, value⟩, he, hw⟩ := exists_entry_of_mem_parts h
    have hentry : sizeOf (key, value) < sizeOf entries := List.sizeOf_lt_of_mem he
    rw [Prod.mk.sizeOf_spec] at hentry
    rw [mapping.sizeOf_spec]
    rcases hw with rfl | rfl <;> omega
  | tagged tag v =>
    cases List.mem_singleton.mp h
    rw [tagged.sizeOf_spec]
    omega
  | null | bool | int | float | text => cases h

theorem parts_induction {P : Value → Prop} (h : ∀ v, (∀ w ∈ v.parts, P w) → P v) (v : Value) : P v :=
  h v fun w _ => parts_induction h w
termination_by sizeOf v
decreasing_by exact sizeOf_lt_of_mem_parts ‹_›

section Lists

variable {α β : Type} {R : α → β → Prop}

lemma forall₂_trans {S : α → α → Prop} {as bs cs : List α}
    (h : ∀ a ∈ as, ∀ b c, S a b → S b c → S a c) (hab : List.Forall₂ S as bs)
    (hbc : List.Forall₂ S bs cs) : List.Forall₂ S as cs := by
  induction hab generalizing cs with
  | nil => exact hbc
  | cons hhead _ ih =>
    cases hbc with
    | cons hhead' htail' =>
      exact .cons (h _ List.mem_cons_self _ _ hhead hhead')
        (ih (fun a ha => h a (List.mem_cons_of_mem _ ha)) htail')

lemma forall₂_symm {S : α → α → Prop} {as bs : List α} (h : ∀ a ∈ as, ∀ b, S a b → S b a)
    (hab : List.Forall₂ S as bs) : List.Forall₂ S bs as := by
  induction hab with
  | nil => exact .nil
  | cons hhead _ ih =>
    exact .cons (h _ List.mem_cons_self _ hhead) (ih fun a ha => h a (List.mem_cons_of_mem _ ha))

lemma exists_of_length_eq {as : List α} {bs : List β} (hlength : as.length = bs.length)
    (htakes : ∀ a ∈ as, ∃ b ∈ bs, R a b) (hown : as.Pairwise fun a a' => ∀ b, R a b → ¬ R a' b) :
    ∀ b ∈ bs, ∃ a ∈ as, R a b := by
  induction as generalizing bs with
  | nil =>
    cases List.length_eq_zero_iff.mp hlength.symm
    simp
  | cons a as ih =>
    obtain ⟨hfirst, hrest⟩ := List.pairwise_cons.mp hown
    obtain ⟨taken, htaken, ha⟩ := htakes a List.mem_cons_self
    obtain ⟨left, right, rfl⟩ := List.append_of_mem htaken
    have hothers : ∀ a' ∈ as, ∃ b ∈ left ++ right, R a' b := by
      intro a' ha'
      obtain ⟨b, hb, hab⟩ := htakes a' (List.mem_cons_of_mem _ ha')
      rcases List.mem_append.mp hb with hl | hr
      · exact ⟨b, List.mem_append_left _ hl, hab⟩
      · rcases List.mem_cons.mp hr with rfl | hr
        · exact absurd hab (hfirst a' ha' _ ha)
        · exact ⟨b, List.mem_append_right _ hr, hab⟩
    have hleft := ih (by simp at hlength ⊢; omega) hothers hrest
    intro b hb
    rcases List.mem_append.mp hb with hl | hr
    · obtain ⟨a', ha', hab⟩ := hleft b (List.mem_append_left _ hl)
      exact ⟨a', List.mem_cons_of_mem _ ha', hab⟩
    · rcases List.mem_cons.mp hr with rfl | hr
      · exact ⟨a, List.mem_cons_self, ha⟩
      · obtain ⟨a', ha', hab⟩ := hleft b (List.mem_append_right _ hr)
        exact ⟨a', List.mem_cons_of_mem _ ha', hab⟩

end Lists

inductive Throughout (Q : Value → Prop) : Value → Prop
  | intro {v : Value} (here : Q v) (below : ∀ w ∈ v.parts, Throughout Q w) : Throughout Q v

def KeysDiffer : Value → Prop
  | .mapping entries => entries.Pairwise fun e f => e.1.same f.1 = false
  | _ => True

abbrev Distinct : Value → Prop := Throughout KeysDiffer

variable {a b c v : Value} {Q : Value → Prop}

lemma Throughout.here (h : v.Throughout Q) : Q v := by
  cases h
  assumption

lemma Throughout.of_part {w : Value} (h : v.Throughout Q) (hw : w ∈ v.parts) : w.Throughout Q := by
  cases h with
  | intro _ below => exact below w hw

lemma throughout_of_parts_eq_nil (here : Q v) (h : v.parts = []) : v.Throughout Q :=
  .intro here (by simp [h])

lemma throughout_mapping_iff {entries : Entries} : (mapping entries).Throughout Q ↔
    Q (mapping entries) ∧ ∀ e ∈ entries, e.1.Throughout Q ∧ e.2.Throughout Q := by
  constructor
  · intro h
    exact ⟨h.here, fun e he => ⟨h.of_part (key_mem_parts he), h.of_part (value_mem_parts he)⟩⟩
  · rintro ⟨here, hentries⟩
    refine .intro here fun w hw => ?_
    obtain ⟨e, he, rfl | rfl⟩ := exists_entry_of_mem_parts hw
    · exact (hentries e he).1
    · exact (hentries e he).2

end Value

section Float

variable {a b c : UInt64}

lemma sameFloat_refl (a : UInt64) : sameFloat a a = true := by simp [sameFloat]

lemma sameFloat_symm (h : sameFloat a b = true) : sameFloat b a = true := by
  simp only [sameFloat, Bool.or_eq_true, Bool.and_eq_true, beq_iff_eq] at h ⊢
  exact h.imp (fun h => h.imp Eq.symm And.symm) And.symm

lemma isZeroBits_of_isNaNBits (h : isNaNBits a = true) : isZeroBits a = false := by
  rw [isNaNBits, decide_eq_true_eq] at h
  rw [isZeroBits, beq_eq_false_iff_ne]
  intro hzero
  rw [hzero] at h
  exact absurd h (by decide)

lemma sameFloat_trans (hab : sameFloat a b = true) (hbc : sameFloat b c = true) :
    sameFloat a c = true := by
  simp only [sameFloat, Bool.or_eq_true, Bool.and_eq_true, beq_iff_eq] at hab hbc ⊢
  rcases hab with (rfl | ⟨ha, hb⟩) | ⟨ha, hb⟩
  · exact hbc
  · rcases hbc with (rfl | ⟨-, hc⟩) | ⟨hb', -⟩
    · exact .inl (.inr ⟨ha, hb⟩)
    · exact .inl (.inr ⟨ha, hc⟩)
    · cases (isZeroBits_of_isNaNBits hb).symm.trans hb'
  · rcases hbc with (rfl | ⟨hb', -⟩) | ⟨-, hc⟩
    · exact .inr ⟨ha, hb⟩
    · cases (isZeroBits_of_isNaNBits hb').symm.trans hb
    · exact .inr ⟨ha, hc⟩

end Float

namespace Value

variable {a b c k x : Value}

section Shapes

attribute [local simp] same sameItems sameEntries

lemma sameItems_iff {as bs : List Value} :
    sameItems as bs = true ↔ List.Forall₂ (fun a b => a.same b = true) as bs := by
  induction as generalizing bs with
  | nil => cases bs <;> simp
  | cons a as ih => cases bs <;> simp [ih]

lemma sameEntries_iff {as bs : Entries} :
    sameEntries as bs = true ↔ ∀ e ∈ as, ∃ f ∈ bs, e.1.same f.1 = true ∧ e.2.same f.2 = true := by
  induction as with
  | nil => simp
  | cons e as ih =>
    obtain ⟨key, value⟩ := e
    simp only [sameEntries, Bool.and_eq_true, List.any_eq_true, ih, List.forall_mem_cons]

lemma same_null_iff : null.same b = true ↔ null = b := by cases b <;> simp

lemma same_bool_iff {x : Bool} : (bool x).same b = true ↔ bool x = b := by cases b <;> simp

lemma same_int_iff {n : Int} : (int n).same b = true ↔ int n = b := by cases b <;> simp

lemma same_float_iff {bits : UInt64} :
    (float bits).same b = true ↔ ∃ bits', float bits' = b ∧ sameFloat bits bits' = true := by
  cases b <;> simp

lemma same_text_iff {s : String} : (text s).same b = true ↔ text s = b := by cases b <;> simp

lemma same_list_iff {items : List Value} : (list items).same b = true ↔
    ∃ items', list items' = b ∧ List.Forall₂ (fun v w => v.same w = true) items items' := by
  cases b <;> simp [sameItems_iff]

lemma same_mapping_iff {entries : Entries} : (mapping entries).same b = true ↔
    ∃ entries', mapping entries' = b ∧ entries.length = entries'.length ∧
      ∀ e ∈ entries, ∃ f ∈ entries', e.1.same f.1 = true ∧ e.2.same f.2 = true := by
  cases b <;> simp [sameEntries_iff]

lemma same_tagged_iff {tag : String} {v : Value} : (tagged tag v).same b = true ↔
    ∃ w, tagged tag w = b ∧ v.same w = true := by
  cases b <;> simp [and_assoc]

end Shapes

lemma same_refl (a : Value) : a.same a = true := by
  induction a using parts_induction with
  | h a ih =>
    cases a with
    | null | bool | int | text => simp [same]
    | float bits => exact same_float_iff.mpr ⟨bits, rfl, sameFloat_refl bits⟩
    | list items => exact same_list_iff.mpr ⟨items, rfl, List.forall₂_same.mpr ih⟩
    | mapping entries =>
      exact same_mapping_iff.mpr ⟨entries, rfl, rfl,
        fun e he => ⟨e, he, ih e.1 (key_mem_parts he), ih e.2 (value_mem_parts he)⟩⟩
    | tagged tag v => exact same_tagged_iff.mpr ⟨v, rfl, ih v List.mem_cons_self⟩

lemma same_trans (hab : a.same b = true) (hbc : b.same c = true) : a.same c = true := by
  induction a using parts_induction generalizing b c with
  | h a ih =>
    cases a with
    | null => exact same_null_iff.mp hab ▸ hbc
    | bool x => exact same_bool_iff.mp hab ▸ hbc
    | int n => exact same_int_iff.mp hab ▸ hbc
    | text s => exact same_text_iff.mp hab ▸ hbc
    | float bits =>
      obtain ⟨bits', rfl, hbits⟩ := same_float_iff.mp hab
      obtain ⟨bits'', rfl, hbits'⟩ := same_float_iff.mp hbc
      exact same_float_iff.mpr ⟨bits'', rfl, sameFloat_trans hbits hbits'⟩
    | list items =>
      obtain ⟨items', rfl, hitems⟩ := same_list_iff.mp hab
      obtain ⟨items'', rfl, hitems'⟩ := same_list_iff.mp hbc
      exact same_list_iff.mpr ⟨items'', rfl, forall₂_trans (fun v hv _ _ => ih v hv) hitems hitems'⟩
    | mapping entries =>
      obtain ⟨entries', rfl, hlength, hentries⟩ := same_mapping_iff.mp hab
      obtain ⟨entries'', rfl, hlength', hentries'⟩ := same_mapping_iff.mp hbc
      refine same_mapping_iff.mpr ⟨entries'', rfl, hlength.trans hlength', fun e he => ?_⟩
      obtain ⟨f, hf, hkey, hvalue⟩ := hentries e he
      obtain ⟨g, hg, hkey', hvalue'⟩ := hentries' f hf
      exact ⟨g, hg, ih e.1 (key_mem_parts he) hkey hkey', ih e.2 (value_mem_parts he) hvalue hvalue'⟩
    | tagged tag v =>
      obtain ⟨w, rfl, hv⟩ := same_tagged_iff.mp hab
      obtain ⟨w', rfl, hw⟩ := same_tagged_iff.mp hbc
      exact same_tagged_iff.mpr ⟨w', rfl, ih v List.mem_cons_self hv hw⟩

lemma same_symm (ha : a.Distinct) (hab : a.same b = true) : b.same a = true := by
  induction a using parts_induction generalizing b with
  | h a ih =>
    cases a with
    | null => exact same_null_iff.mp hab ▸ same_refl _
    | bool x => exact same_bool_iff.mp hab ▸ same_refl _
    | int n => exact same_int_iff.mp hab ▸ same_refl _
    | text s => exact same_text_iff.mp hab ▸ same_refl _
    | float bits =>
      obtain ⟨bits', rfl, hbits⟩ := same_float_iff.mp hab
      exact same_float_iff.mpr ⟨bits, rfl, sameFloat_symm hbits⟩
    | list items =>
      obtain ⟨items', rfl, hitems⟩ := same_list_iff.mp hab
      exact same_list_iff.mpr ⟨items, rfl, forall₂_symm (fun v hv _ => ih v hv (ha.of_part hv)) hitems⟩
    | mapping entries =>
      obtain ⟨entries', rfl, hlength, hentries⟩ := same_mapping_iff.mp hab
      have hkeySymm : ∀ e ∈ entries, ∀ k, e.1.same k = true → k.same e.1 = true := fun e he k =>
        ih e.1 (key_mem_parts he) (ha.of_part (key_mem_parts he))
      have hdiffer : entries.Pairwise fun e f => ∀ g : Value × Value,
          (e.1.same g.1 = true ∧ e.2.same g.2 = true) → ¬ (f.1.same g.1 = true ∧ f.2.same g.2 = true) := by
        refine List.Pairwise.imp_of_mem ?_ ha.here
        intro e f he hf hef g heg hfg
        cases hef.symm.trans (same_trans heg.1 (hkeySymm f hf g.1 hfg.1))
      refine same_mapping_iff.mpr ⟨entries, rfl, hlength.symm, fun g hg => ?_⟩
      obtain ⟨e, he, hkey, hvalue⟩ := exists_of_length_eq hlength hentries hdiffer g hg
      exact ⟨e, he, hkeySymm e he g.1 hkey,
        ih e.2 (value_mem_parts he) (ha.of_part (value_mem_parts he)) hvalue⟩
    | tagged tag v =>
      obtain ⟨w, rfl, hv⟩ := same_tagged_iff.mp hab
      exact same_tagged_iff.mpr ⟨v, rfl, ih v List.mem_cons_self (ha.of_part List.mem_cons_self) hv⟩

lemma same_congr_left (ha : a.Distinct) (h : a.same b = true) (x : Value) : a.same x = b.same x :=
  Bool.eq_iff_iff.mpr ⟨same_trans (same_symm ha h), same_trans h⟩

lemma same_congr_right (ha : a.Distinct) (h : a.same b = true) (x : Value) : x.same a = x.same b :=
  Bool.eq_iff_iff.mpr ⟨fun hx => same_trans hx h, fun hx => same_trans hx (same_symm ha h)⟩

end Value

end HostProbe.Yaml
