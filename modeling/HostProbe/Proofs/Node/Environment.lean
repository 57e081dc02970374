import HostProbe.Node.Environment
import HostProbe.Proofs.Association
import HostProbe.Proofs.Text.Quoted
import Mathlib.Data.Prod.Lex
import Mathlib.Data.String.Basic

/-! Environments as maps from names to values. Definitions keep the names apart; two environments with
distinct names are the same map exactly if they are the same in order, and then they are shown by the
same text. -/

namespace HostProbe.Environment

variable {env env' : Environment} {name x value : String}

def names (env : Environment) : List String := env.map (·.1)

lemma lookup_define_self : (define name value env).lookup name = some value := by
  induction env with
  | nil => simp [define]
  | cons p rest ih =>
    by_cases h : p.1 = name
    · simp [define, h]
    · rw [define, if_neg h, List.lookup_cons, beq_false_of_ne (Ne.symm h)]
      exact ih

lemma lookup_define_of_ne (hx : x ≠ name) : (define name value env).lookup x = env.lookup x := by
  induction env with
  | nil => simp [define, List.lookup_cons, beq_false_of_ne hx]
  | cons p rest ih =>
    obtain ⟨n, v⟩ := p
    by_cases h : n = name
    · subst h
      simp [define, List.lookup_cons, beq_false_of_ne hx]
    · rw [define, if_neg h, List.lookup_cons, List.lookup_cons, ih]

theorem lookup_defineAll (env : Environment) (more : List (String × String)) (x : String) :
    (env.defineAll more).lookup x = (more.reverse ++ env).lookup x := by
  induction more generalizing env with
  | nil => rfl
  | cons p rest ih =>
    obtain ⟨name, value⟩ := p
    refine (ih (define name value env)).trans ?_
    rw [List.reverse_cons, List.append_assoc, List.singleton_append, List.lookup_append,
      List.lookup_append]
    by_cases hx : x = name
    · rw [hx, lookup_define_self, List.lookup_cons_self]
    · rw [lookup_define_of_ne hx, Association.lookup_cons_of_ne hx]

lemma mem_names_define : x ∈ names (define name value env) ↔ x = name ∨ x ∈ names env := by
  induction env with
  | nil => simp [define, names]
  | cons p rest ih =>
    by_cases h : p.1 = name
    · simp [define, h, names]
    · simp only [names] at ih ⊢
      rw [define, if_neg h, List.map_cons, List.mem_cons, ih, List.map_cons, List.mem_cons]
      tauto

lemma nodup_define (h : (names env).Nodup) : (names (define name value env)).Nodup := by
  induction env with
  | nil => simp [define, names]
  | cons p rest ih =>
    have hp : p.1 ∉ names rest := (List.nodup_cons.mp h).1
    have hrest : (names rest).Nodup := (List.nodup_cons.mp h).2
    by_cases hname : p.1 = name
    · rw [define, if_pos hname]
      exact h
    · rw [define, if_neg hname]
      refine List.nodup_cons.mpr ⟨fun hmem => ?_, ih hrest⟩
      rcases mem_names_define.mp hmem with hmem | hmem
      · exact hname hmem
      · exact hp hmem

lemma nodup_defineAll (h : (names env).Nodup) (more : List (String × String)) :
    (names (env.defineAll more)).Nodup := by
  induction more generalizing env with
  | nil => exact h
  | cons p rest ih => exact ih (nodup_define h)

lemma eq_of_checked (h : env.checked = .ok env') : env' = env := by
  unfold checked at h
  simp only [bind, Except.bind, pure, Except.pure] at h
  split at h
  · cases h
  · cases h
    rfl

lemma le_iff_toLex (a b : String × String) :
    (a.1 < b.1 ∨ (a.1 = b.1 ∧ a.2 ≤ b.2)) ↔ toLex a ≤ toLex b := Prod.Lex.toLex_le_toLex.symm

lemma perm_sorted (env : Environment) : env.sorted.Perm env := List.mergeSort_perm _ _

lemma pairwise_sorted (env : Environment) :
    env.sorted.Pairwise fun a b => toLex a ≤ toLex b := by
  have h : env.sorted.Pairwise fun a b => decide (a.1 < b.1 ∨ (a.1 = b.1 ∧ a.2 ≤ b.2)) = true :=
    List.pairwise_mergeSort
      (fun a b c => by simpa only [decide_eq_true_eq, le_iff_toLex] using le_trans)
      (fun a b => by simpa only [Bool.or_eq_true, decide_eq_true_eq, le_iff_toLex] using le_total _ _)
      env
  simpa only [decide_eq_true_eq, le_iff_toLex] using h

lemma sorted_eq_iff_perm : env.sorted = env'.sorted ↔ env.Perm env' := by
  constructor
  · intro h
    exact (perm_sorted env).symm.trans (h ▸ perm_sorted env')
  · intro h
    refine List.Perm.eq_of_pairwise (fun a b _ _ hab hba => ?_) (pairwise_sorted env)
      (pairwise_sorted env') ((perm_sorted env).trans (h.trans (perm_sorted env').symm))
    exact toLex_inj.mp (le_antisymm hab hba)

theorem sorted_eq_iff (h : (names env).Nodup) (h' : (names env').Nodup) :
    env.sorted = env'.sorted ↔ ∀ name, env.lookup name = env'.lookup name := by
  rw [sorted_eq_iff_perm, List.perm_ext_iff_of_nodup (List.Nodup.of_map _ h)
    (List.Nodup.of_map _ h')]
  constructor
  · intro hmem name
    refine Option.ext fun value => ?_
    rw [← Association.mem_iff_lookup h, ← Association.mem_iff_lookup h', hmem]
  · rintro hlookup ⟨name, value⟩
    rw [Association.mem_iff_lookup h, Association.mem_iff_lookup h', hlookup]

lemma selfDelimiting_shownEntry : Text.SelfDelimiting fun entry => (shownEntry entry).toList := by
  have h := ((Text.selfDelimiting_quoted.between ['('] [',', ' ']).append
    (Text.selfDelimiting_quoted.between [] [')']))
  intro a b rest rest' hab
  refine h a b rest rest' ?_
  simpa [shownEntry] using hab

lemma selfDelimiting_shown : Text.SelfDelimiting fun env => (shown env).toList := by
  have havoid : Text.Avoids ']' fun entry => (shownEntry entry).toList :=
    fun entry => ⟨'(', _, by simp [shownEntry]; rfl, by decide⟩
  have h := (selfDelimiting_shownEntry.intercalate havoid (c := ',') (by decide) [' ']).between ['['] []
  intro a b rest rest' hab
  refine h a b rest rest' ?_
  simpa [shown, Function.comp_def] using hab

end HostProbe.Environment
