import HostProbe.Fault
import Mathlib.Order.Defs.Unbundled
import Mathlib.Tactic.Common

/-! Operations that may fail and that change a state, from the state that they start in. An operation
stays within a relation if the relation leads from every state to the state that the operation
leaves, however it ends. -/

namespace HostProbe

variable {S α β : Type}

@[simp] lemma pure_apply (x : α) (s : S) : (pure x : ExceptT Fault (StateM S) α) s = (.ok x, s) := rfl

@[simp] lemma throw_apply (f : Fault) (s : S) :
    (throw f : ExceptT Fault (StateM S) α) s = (.error f, s) := rfl

@[simp] lemma get_apply (s : S) : (get : ExceptT Fault (StateM S) S) s = (.ok s, s) := rfl

@[simp] lemma liftM_apply (x : Except Fault α) (s : S) :
    (liftM x : ExceptT Fault (StateM S) α) s = (x, s) := rfl

section Bind

variable {a : ExceptT Fault (StateM S) α} {f : α → ExceptT Fault (StateM S) β} {s s' t : S}

lemma bind_apply (a : ExceptT Fault (StateM S) α) (f : α → ExceptT Fault (StateM S) β) (s : S) :
    (a >>= f) s = match a s with
      | (.ok x, s') => f x s'
      | (.error e, s') => (.error e, s') := by
  change (match a s with | (r, s') => ExceptT.bindCont f r s') = _
  cases a s with
  | mk r s' => cases r <;> rfl

lemma bind_of_ok {x : α} (h : a s = (.ok x, s')) (f : α → ExceptT Fault (StateM S) β) :
    (a >>= f) s = f x s' := by
  rw [bind_apply, h]

lemma bind_of_error {e : Fault} (h : a s = (.error e, s')) (f : α → ExceptT Fault (StateM S) β) :
    (a >>= f) s = (.error e, s') := by
  rw [bind_apply, h]

lemma bind_eq_ok {y : β} (h : (a >>= f) s = (.ok y, t)) :
    ∃ x s', a s = (.ok x, s') ∧ f x s' = (.ok y, t) := by
  rw [bind_apply] at h
  rcases ha : a s with ⟨_ | x, s'⟩
  · rw [ha] at h
    cases h
  · rw [ha] at h
    exact ⟨x, s', rfl, h⟩

lemma map_apply (f : α → β) (a : ExceptT Fault (StateM S) α) (s : S) :
    (f <$> a) s = ((a s).1.map f, (a s).2) := by
  rw [map_eq_pure_bind, bind_apply]
  rcases a s with ⟨_ | x, t⟩ <;> rfl

lemma tryCatch_apply (a : ExceptT Fault (StateM S) α) (handle : Fault → ExceptT Fault (StateM S) α)
    (s : S) : (tryCatch a handle : ExceptT Fault (StateM S) α) s = match a s with
      | (.ok x, t) => (.ok x, t)
      | (.error e, t) => handle e t := by
  simp only [tryCatch, tryCatchThe, MonadExceptOf.tryCatch, ExceptT.tryCatch, ExceptT.mk, bind,
    StateT.bind]
  rcases a s with ⟨_ | x, t⟩ <;> rfl

end Bind

def Within (R : S → S → Prop) (a : ExceptT Fault (StateM S) α) : Prop := ∀ s, R s (a s).2

section Within

variable {R R' : S → S → Prop}

lemma Within.mono {a : ExceptT Fault (StateM S) α} (h : Within R a) (hR : ∀ s t, R s t → R' s t) :
    Within R' a := fun s => hR _ _ (h s)

lemma Within.of_eq {a : ExceptT Fault (StateM S) α} {s : S} {out : Except Fault α × S}
    (h : Within R a) (hrun : a s = out) : R s out.2 := hrun ▸ h s

lemma within_modify {f : S → S} (h : ∀ s, R s (f s)) :
    Within R (modify f : ExceptT Fault (StateM S) Unit) := h

variable [IsPreorder S R]

lemma within_pure (x : α) : Within R (pure x : ExceptT Fault (StateM S) α) := fun s => refl s

lemma within_throw (f : Fault) : Within R (throw f : ExceptT Fault (StateM S) α) := fun s => refl s

lemma within_liftM (x : Except Fault α) : Within R (liftM x : ExceptT Fault (StateM S) α) :=
  fun s => refl s

lemma within_get : Within R (get : ExceptT Fault (StateM S) S) := fun s => refl s

lemma Within.bind {a : ExceptT Fault (StateM S) α} {f : α → ExceptT Fault (StateM S) β}
    (ha : Within R a) (hf : ∀ x, Within R (f x)) : Within R (a >>= f) := by
  intro s
  have h := ha s
  rw [bind_apply]
  generalize a s = out at h ⊢
  rcases out with ⟨_ | x, s'⟩
  · exact h
  · exact IsTrans.trans _ _ _ h (hf x s')

def EndsBy (R P : S → S → Prop) (a : ExceptT Fault (StateM S) α) : Prop :=
  ∀ s x t, a s = (.ok x, t) → ∃ u, R s u ∧ P u t

lemma endsBy_of_last {P : S → S → Prop} {a : ExceptT Fault (StateM S) α}
    (h : ∀ s x t, a s = (.ok x, t) → P s t) : EndsBy R P a := fun s x t hrun => ⟨s, refl s, h s x t hrun⟩

lemma Within.bind_endsBy {P : S → S → Prop} {a : ExceptT Fault (StateM S) α}
    {f : α → ExceptT Fault (StateM S) β} (ha : Within R a) (hf : ∀ x, EndsBy R P (f x)) :
    EndsBy R P (a >>= f) := by
  intro s y t hrun
  obtain ⟨x, s', hfirst, hlast⟩ := bind_eq_ok hrun
  obtain ⟨u, hu, hend⟩ := hf x s' y t hlast
  exact ⟨u, IsTrans.trans _ _ _ (ha.of_eq hfirst) hu, hend⟩

end Within

def settled (a : ExceptT Fault (StateM S) α) : ExceptT Fault (StateM S) (Except Fault α) :=
  fun s => (.ok (a s).1, (a s).2)

lemma settled_bind (a : ExceptT Fault (StateM S) α) (f : α → ExceptT Fault (StateM S) β) :
    settled (a >>= f) = settled a >>= fun
      | .ok x => settled (f x)
      | .error e => pure (.error e) := by
  funext s
  rw [bind_apply]
  simp only [settled, bind_apply]
  rcases a s with ⟨_ | x, t⟩ <;> rfl

def Faults (P : Fault → Prop) (a : ExceptT Fault (StateM S) α) : Prop :=
  ∀ s f, (a s).1 = .error f → P f

section Faults

variable {P : Fault → Prop}

lemma faults_pure (x : α) : Faults P (pure x : ExceptT Fault (StateM S) α) := fun _ _ h => nomatch h

lemma faults_throw {f : Fault} (h : P f) : Faults P (throw f : ExceptT Fault (StateM S) α) := by
  rintro s f ⟨⟩
  exact h

lemma faults_liftM {x : Except Fault α} (h : ∀ f, x = .error f → P f) :
    Faults P (liftM x : ExceptT Fault (StateM S) α) := fun _ f hf => h f hf

lemma faults_get : Faults P (get : ExceptT Fault (StateM S) S) := fun _ _ h => nomatch h

lemma faults_modify (f : S → S) : Faults P (modify f : ExceptT Fault (StateM S) Unit) :=
  fun _ _ h => nomatch h

lemma Faults.bind {a : ExceptT Fault (StateM S) α} {f : α → ExceptT Fault (StateM S) β}
    (ha : Faults P a) (hf : ∀ x, Faults P (f x)) : Faults P (a >>= f) := by
  intro s e he
  rw [bind_apply] at he
  rcases hrun : a s with ⟨e' | x, t⟩
  · rw [hrun] at he
    cases he
    exact ha s e (congrArg Prod.fst hrun)
  · rw [hrun] at he
    exact hf x t e he

end Faults

end HostProbe
