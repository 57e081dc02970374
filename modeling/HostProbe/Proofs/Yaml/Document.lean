import HostProbe.Proofs.Yaml.Layers
import HostProbe.Yaml.Document

/-! What is read from a document has no key twice in any of its mappings, however deep, wherever an alias
led; without tags it is a plain value. -/

namespace HostProbe.Yaml

def Yields {σ α : Type} (m : StateT σ Option α) (P : α → Prop) : Prop :=
  ∀ s a s', m s = some (a, s') → P a

section Yields

variable {σ α β : Type} {m : StateT σ Option α} {P Q : α → Prop} {R : β → Prop}

lemma yields_pure {a : α} (h : P a) : Yields (σ := σ) (pure a) P := by
  rintro s b s' hb
  cases hb
  exact h

lemma yields_lift {x : Option α} (h : ∀ a, x = some a → P a) : Yields (σ := σ) (liftM x) P := by
  rintro s a s' ha
  cases x with
  | none => cases ha
  | some b =>
    cases ha
    exact h a rfl

lemma yields_failure : Yields (σ := σ) failure P := by
  rintro s a s' ⟨⟩

lemma Yields.bind {f : α → StateT σ Option β} (hm : Yields m P) (hf : ∀ a, P a → Yields (f a) R) :
    Yields (m >>= f) R := by
  rintro s b s'' hb
  obtain ⟨⟨a, s'⟩, ha, hfa⟩ := Option.bind_eq_some_iff.mp hb
  exact hf a (hm s a s' ha) s' b s'' hfa

lemma yields_true (m : StateT σ Option α) : Yields m fun _ => True := fun _ _ _ _ => trivial

lemma yields_mapM {f : α → StateT σ Option β} (hf : ∀ a, Yields (f a) R) (as : List α) :
    Yields (as.mapM f) fun bs => ∀ b ∈ bs, R b := by
  induction as with
  | nil => exact yields_pure (by simp)
  | cons a as ih =>
    rw [List.mapM_cons]
    refine (hf a).bind fun b hb => ih.bind fun bs hbs => yields_pure ?_
    exact List.forall_mem_cons.mpr ⟨hb, hbs⟩

end Yields

namespace Value

variable {v : Value} {values : List Value} {pairs entries : Entries}

lemma distinct_list (h : ∀ v ∈ values, v.Distinct) : (list values).Distinct := .intro trivial h

lemma distinct_withTag (h : v.Distinct) (tag : Option Tag) : (withTag tag v).Distinct := by
  cases tag with
  | none => exact h
  | some tag =>
    cases tag with
    | kept name => exact distinct_tagged h name
    | schema name => exact h

lemma parts_of_plainValue? {s : String} (h : plainValue? s = some v) : v.parts = [] := by
  rw [plainValue?] at h
  repeat' split at h
  all_goals cases h <;> rfl

lemma parts_of_coreTagged? {name s : String} (h : coreTagged? name s = some v) : v.parts = [] := by
  rw [coreTagged?] at h
  split_ifs at h
  · obtain ⟨b, -, rfl⟩ := Option.map_eq_some_iff.mp h
    rfl
  · split at h
    · cases h
      rfl
    · cases h
  · obtain ⟨bits, -, rfl⟩ := Option.map_eq_some_iff.mp h
    rfl
  · cases h
    rfl
  · cases h
    rfl

lemma distinct_of_bareScalar? {plain : Bool} {s : String} (h : bareScalar? plain s = some v) :
    v.Distinct := by
  rw [bareScalar?] at h
  split at h
  · exact distinct_of_parts_eq_nil (parts_of_plainValue? h)
  · cases h
    exact distinct_of_parts_eq_nil rfl

lemma distinct_of_scalar? {tag : Option Tag} {plain : Bool} {s : String}
    (h : scalar? tag plain s = some v) : v.Distinct := by
  cases tag with
  | none => exact distinct_of_bareScalar? h
  | some tag =>
    cases tag with
    | kept name =>
      obtain ⟨w, hw, rfl⟩ := Option.map_eq_some_iff.mp h
      exact distinct_tagged (distinct_of_bareScalar? hw) name
    | schema name => exact distinct_of_parts_eq_nil (parts_of_coreTagged? h)

lemma distinct_of_distinct? (h : distinct? pairs = some entries)
    (hpairs : ∀ e ∈ pairs, e.1.Distinct ∧ e.2.Distinct) : (mapping entries).Distinct := by
  have hentries : entries = pairs ∧ pairs.Pairwise fun e f => e.1.same f.1 = false := by
    induction pairs generalizing entries with
    | nil =>
      cases h
      exact ⟨rfl, .nil⟩
    | cons e rest ih =>
      obtain ⟨key, value⟩ := e
      simp only [distinct?] at h
      split at h
      · cases h
      · next hnone =>
        obtain ⟨es, hes, rfl⟩ := Option.map_eq_some_iff.mp h
        obtain ⟨rfl, hrest⟩ := ih hes fun e he => hpairs e (List.mem_cons_of_mem _ he)
        refine ⟨rfl, List.pairwise_cons.mpr ⟨fun f hf => ?_, hrest⟩⟩
        have hkey : key.Distinct := (hpairs (key, value) List.mem_cons_self).1
        -- What is looked for among the later keys is one that is the same as this, not the reverse.
        refine Bool.eq_false_iff.mpr fun hsame => hnone ?_
        exact List.any_eq_true.mpr ⟨f, hf, same_symm hkey hsame⟩
  obtain ⟨rfl, hdiffer⟩ := hentries
  exact throughout_mapping_iff.mpr ⟨hdiffer, hpairs⟩

variable {anchors : List (Nat × Option Tag × Body)}

lemma distinct_valueOf (depth : Nat) (node : Node) : Yields (valueOf anchors depth node) Distinct := by
  induction depth generalizing node with
  | zero =>
    rw [valueOf]
    refine (yields_true _).bind fun found _ => ?_
    obtain ⟨tag, body⟩ := found
    cases body with
    | scalar plain text => exact yields_lift fun v hv => distinct_of_scalar? hv
    | list items => exact yields_failure
    | mapping entries => exact yields_failure
  | succ depth ih =>
    rw [valueOf]
    refine (yields_true _).bind fun found _ => ?_
    obtain ⟨tag, body⟩ := found
    cases body with
    | scalar plain text => exact yields_lift fun v hv => distinct_of_scalar? hv
    | list items =>
      refine (yields_mapM ih items).bind fun values hvalues => yields_pure ?_
      exact distinct_withTag (distinct_list hvalues) tag
    | mapping entries =>
      have hpairs : ∀ e : Node × Node, Yields (do
          return (← valueOf anchors depth e.1, ← valueOf anchors depth e.2))
          fun p => p.1.Distinct ∧ p.2.Distinct := fun e =>
        (ih e.1).bind fun key hkey => (ih e.2).bind fun value hvalue => yields_pure ⟨hkey, hvalue⟩
      refine (yields_mapM hpairs entries).bind fun pairs hpairs => ?_
      refine (yields_lift (P := fun es => (mapping es).Distinct) fun es hes => ?_).bind
        fun es hes => yields_pure (distinct_withTag hes tag)
      exact distinct_of_distinct? hes hpairs

lemma distinct_of_parse? {text : String} (h : parse? text = some v) : v.Distinct := by
  obtain ⟨tokens, -, h⟩ := Option.bind_eq_some_iff.mp h
  obtain ⟨root, -, h⟩ := Option.bind_eq_some_iff.mp h
  obtain ⟨⟨w, left⟩, hw, rfl⟩ := Option.map_eq_some_iff.mp h
  exact distinct_valueOf depthLimit root _ _ _ hw

section Tags

mutual

def hasTag : Value → Bool
  | .tagged _ _ => true
  | .list items => itemsHaveTag items
  | .mapping entries => entriesHaveTag entries
  | _ => false

def itemsHaveTag : List Value → Bool
  | [] => false
  | v :: rest => hasTag v || itemsHaveTag rest

def entriesHaveTag : List (Value × Value) → Bool
  | [] => false
  | (k, v) :: rest => hasTag k || hasTag v || entriesHaveTag rest

end

variable {w : Value}

lemma hasTag_of_mem {items : List Value} (h : itemsHaveTag items = false) (hw : w ∈ items) :
    w.hasTag = false := by
  induction items with
  | nil => cases hw
  | cons v rest ih =>
    rw [itemsHaveTag, Bool.or_eq_false_iff] at h
    rcases List.mem_cons.mp hw with rfl | hw
    · exact h.1
    · exact ih h.2 hw

lemma hasTag_of_mem_entries {e : Value × Value} (h : entriesHaveTag entries = false) (he : e ∈ entries) :
    e.1.hasTag = false ∧ e.2.hasTag = false := by
  induction entries with
  | nil => cases he
  | cons f rest ih =>
    rw [entriesHaveTag, Bool.or_eq_false_iff, Bool.or_eq_false_iff] at h
    rcases List.mem_cons.mp he with rfl | he
    · exact h.1
    · exact ih h.2 he

lemma hasTag_of_part (h : v.hasTag = false) (hw : w ∈ v.parts) : w.hasTag = false := by
  cases v with
  | list items =>
    have hitems : itemsHaveTag items = false := by simpa [hasTag] using h
    exact hasTag_of_mem hitems hw
  | mapping entries =>
    have hentries : entriesHaveTag entries = false := by simpa [hasTag] using h
    obtain ⟨e, he, rfl | rfl⟩ := exists_entry_of_mem_parts hw
    · exact (hasTag_of_mem_entries hentries he).1
    · exact (hasTag_of_mem_entries hentries he).2
  | tagged => simp [hasTag] at h
  | null | bool | int | float | text => cases hw

lemma tagFree_of_hasTag (h : v.hasTag = false) : v.Throughout NoTag := by
  induction v using parts_induction with
  | h v ih =>
    refine .intro ?_ fun w hw => ih w hw (hasTag_of_part h hw)
    cases v with
    | tagged => simp [hasTag] at h
    | _ => trivial

end Tags

end Value

end HostProbe.Yaml
