import HostProbe.Proofs.Package.Refresh
import Mathlib.Logic.Relation

/-! How often the view of the repositories is refreshed in a course of a node. No refresh succeeds after
another, and nothing relies on one that did not succeed before. One that fails makes what it was for fail,
and the next operation that needs it tries again. -/

namespace HostProbe.Node

open NodeM

variable {σ α : Type} {n : Node σ} {kind other : PackageKind} {s t u : NodeState σ}
  {xs ys : List Exchange} {x : Exchange}

section Law

def RefreshedOnce (n : Node σ) (kind : PackageKind) (xs : List Exchange) : Prop :=
  ∀ before x after, xs = before ++ x :: after →
    (n.Refreshed kind x → ∀ y ∈ before, ¬ n.Refreshed kind y) ∧
    (n.Relies kind x → ∃ y ∈ before, n.Refreshed kind y)

lemma refreshedOnce_nil : n.RefreshedOnce kind [] := by
  intro before x after h
  simp at h

lemma RefreshedOnce.concat (h : n.RefreshedOnce kind xs)
    (hrefreshed : n.Refreshed kind x → ∀ y ∈ xs, ¬ n.Refreshed kind y)
    (hrelies : n.Relies kind x → ∃ y ∈ xs, n.Refreshed kind y) : n.RefreshedOnce kind (xs ++ [x]) := by
  intro before y after heq
  obtain rfl | ⟨after, last, rfl⟩ := List.eq_nil_or_concat' after
  · obtain ⟨rfl, hlast⟩ := List.append_inj' heq rfl
    obtain rfl := List.singleton_inj.mp hlast
    exact ⟨hrefreshed, hrelies⟩
  · refine h before y after ?_
    rw [← List.cons_append, ← List.append_assoc] at heq
    exact List.append_inj_left' heq rfl

lemma RefreshedOnce.append (h : n.RefreshedOnce kind xs) (hrefreshed : ∀ y ∈ ys, ¬ n.Refreshed kind y)
    (hrelies : ∀ y ∈ ys, n.Relies kind y → ∃ z ∈ xs, n.Refreshed kind z) :
    n.RefreshedOnce kind (xs ++ ys) := by
  induction ys generalizing xs with
  | nil => simpa using h
  | cons y ys ih =>
    obtain ⟨hy, hrefreshed⟩ := List.forall_mem_cons.mp hrefreshed
    obtain ⟨hy', hrelies⟩ := List.forall_mem_cons.mp hrelies
    rw [List.append_cons]
    refine ih (h.concat (fun hnot => absurd hnot hy) hy') hrefreshed fun z hz hneeds => ?_
    obtain ⟨w, hw, hdone⟩ := hrelies z hz hneeds
    exact ⟨w, List.mem_append_left _ hw, hdone⟩

/-- On the way the view was refreshed at most once and before all that relied on it, and the node knows
whether it was. -/
def Faithful (n : Node σ) (kind : PackageKind) (s t : NodeState σ) : Prop :=
  ∃ xs, n.Leads s t xs ∧ n.RefreshedOnce kind xs ∧
    (t.packages = some (kind, ⟨true⟩) ↔ ∃ x ∈ xs, n.Refreshed kind x)

lemma faithful_of_unknown (h : s.packages = none) : n.Faithful kind s s :=
  ⟨[], leads_of_eq rfl rfl, refreshedOnce_nil, by simp [h]⟩

lemma Faithful.extend (h : n.Faithful kind s t) (hleads : n.Leads t u ys)
    (hrefreshed : ∀ y ∈ ys, ¬ n.Refreshed kind y)
    (hrelies : ∀ y ∈ ys, n.Relies kind y → t.packages = some (kind, ⟨true⟩))
    (hmanager : u.packages = some (kind, ⟨true⟩) ↔ t.packages = some (kind, ⟨true⟩)) :
    n.Faithful kind s u := by
  obtain ⟨xs, hbefore, honce, hview⟩ := h
  refine ⟨xs ++ ys, hbefore.trans hleads,
    honce.append hrefreshed fun y hy hneeds => hview.mp (hrelies y hy hneeds), ?_⟩
  rw [hmanager, hview]
  constructor
  · rintro ⟨x, hx, hdone⟩
    exact ⟨x, List.mem_append_left _ hx, hdone⟩
  · rintro ⟨x, hx, hdone⟩
    exact ⟨x, (List.mem_append.mp hx).resolve_right fun hy => hrefreshed x hy hdone, hdone⟩

lemma Faithful.aside (h : n.Faithful kind s t) (h' : n.Aside t u) : n.Faithful kind s u := by
  obtain ⟨ys, hleads, hys⟩ := h'.hands
  refine h.extend hleads (fun y hy => not_refreshed_of_apart (hys y hy))
    (fun y hy hneeds => absurd hneeds (not_relies_of_apart (hys y hy))) ?_
  obtain hsame | ⟨hnone, other, hother⟩ := h'.manager
  · rw [hsame]
  · simp [hnone, hother, Once.fresh]

lemma Faithful.relying (h : n.Faithful kind s t) (ht : t.packages = some (other, ⟨true⟩))
    (h' : n.Relying other t u) : n.Faithful kind s u := by
  obtain ⟨hsame, ys, hleads, hys⟩ := h'
  refine h.extend hleads (fun y hy => ?_) (fun y hy hneeds => ?_) (by rw [hsame])
  · obtain hapart | hneeds := hys y hy
    · exact not_refreshed_of_apart hapart
    · exact fun hdone => not_refreshes_of_relies hneeds hdone.1
  · obtain hapart | hneeds' := hys y hy
    · exact absurd hneeds (not_relies_of_apart hapart)
    · exact eq_of_relies hneeds hneeds' ▸ ht

lemma Faithful.refreshed {asked : List Exchange} (h : n.Faithful kind s t)
    (ht : t.packages ≠ some (kind, ⟨true⟩)) (hleads : n.Leads t u (asked ++ [x]))
    (hasked : ∀ y ∈ asked, asksSudo y.request.command) (hx : n.Refreshed kind x)
    (hu : u.packages = some (kind, ⟨true⟩)) : n.Faithful kind s u := by
  obtain ⟨xs, hbefore, honce, hview⟩ := h
  have hapart : ∀ y ∈ asked, n.Apart y.request.command := fun y hy => apart_of_asksSudo (hasked y hy)
  have honce' : n.RefreshedOnce kind (xs ++ asked) :=
    honce.append (fun y hy => not_refreshed_of_apart (hapart y hy)) fun y hy hneeds =>
      absurd hneeds (not_relies_of_apart (hapart y hy))
  refine ⟨xs ++ (asked ++ [x]), hbefore.trans hleads, ?_, iff_of_true hu ⟨x, by simp, hx⟩⟩
  rw [← List.append_assoc]
  refine honce'.concat (fun _ y hy hdone => ?_) fun hneeds => absurd hx.1 (not_refreshes_of_relies hneeds)
  obtain hy | hy := List.mem_append.mp hy
  · exact ht (hview.mpr ⟨y, hy, hdone⟩)
  · exact not_refreshed_of_apart (hapart y hy) hdone

lemma Faithful.ensureFresh (hkind : kind.refreshCommand? ≠ none) (h : n.Faithful kind s t)
    (ht : t.packages = some (other, .fresh)) : n.Faithful kind s (n.ensureFresh other t).2 := by
  obtain ⟨hmanager, ys, hleads, hrefreshing⟩ := ensureFresh_cases (n := n) ht
  generalize n.ensureFresh other t = out at hmanager hleads hrefreshing ⊢
  have hstale : t.packages ≠ some (kind, ⟨true⟩) := by simp [ht, Once.fresh]
  rcases out with ⟨r, u⟩
  -- The view is fresh afterwards only if this manager's refresh succeeded, and then it is the first that did.
  by_cases hfresh : u.packages = some (kind, ⟨true⟩)
  · obtain ⟨rfl, hok⟩ : other = kind ∧ r.isOk = true := by simpa using hmanager.symm.trans hfresh
    cases hrefreshing with
    | needless hnone => exact absurd hnone hkind
    | refreshed hasked hrefreshed => exact h.refreshed hstale hleads hasked hrefreshed hfresh
    | failed _ _ _ => cases hok
    | stopped _ _ => cases hok
  · refine h.extend hleads (fun y hy hdone => ?_) (fun y hy hneeds => ?_) (iff_of_false hfresh hstale)
    · obtain hapart | ⟨hrefreshes, hok⟩ := hrefreshing.apart_or_refreshes y hy
      · exact not_refreshed_of_apart hapart hdone
      · obtain rfl := eq_of_refreshes hdone.1 hrefreshes
        rw [hok hdone.2] at hmanager
        exact hfresh hmanager
    · obtain hapart | ⟨hrefreshes, -⟩ := hrefreshing.apart_or_refreshes y hy
      · exact absurd hneeds (not_relies_of_apart hapart)
      · exact absurd hrefreshes (not_refreshes_of_relies hneeds)

lemma Faithful.freshensFirst (hkind : kind.refreshCommand? ≠ none) (h : n.Faithful kind s t)
    {view : Once} (ht : t.packages = some (other, view)) {a : NodeM σ α}
    (ha : n.FreshensFirst other a) : n.Faithful kind s (a t).2 := by
  obtain ⟨rest, rfl, hrest⟩ := ha
  obtain ⟨done⟩ := view
  rw [bind_apply]
  cases done with
  | true =>
    rw [ensureFresh_of_fresh ht]
    exact h.relying ht (hrest () t)
  | false =>
    have hfaithful := h.ensureFresh hkind ht
    have hmanager := (ensureFresh_cases (n := n) ht).1
    generalize n.ensureFresh other t = out at hfaithful hmanager ⊢
    rcases out with ⟨f | ⟨⟩, u⟩
    · exact hfaithful
    · exact hfaithful.relying hmanager (hrest () u)

lemma Faithful.managed (hkind : kind.refreshCommand? ≠ none) (h : n.Faithful kind s t)
    {a : PackageKind → NodeM σ α} (ha : ∀ other, n.FreshensFirst other (a other)) :
    n.Faithful kind s ((n.packageManager >>= a) t).2 := by
  have hcases := packageManager_cases (n := n) t
  rw [bind_apply]
  generalize n.packageManager t = out at hcases ⊢
  cases hcases with
  | known hknown => exact h.freshensFirst hkind hknown (ha _)
  | chosen _ haside hchosen => exact (h.aside haside).freshensFirst hkind hchosen (ha _)
  | failed haside => exact h.aside haside

end Law

section Retry

/-- The operation does not do its own before a refresh: if the node is of this kind and can be used then a
refresh is tried, and unless it succeeds the operation fails, nothing that relies on it was sent, and the
view is as stale as before. -/
def AwaitsRefresh (n : Node σ) (kind : PackageKind) (a : NodeM σ α) (s : NodeState σ) : Prop :=
  ∀ u, n.packageManager s = (.ok kind, u) → ∃ xs, n.Leads s (a s).2 xs ∧
    (n.Serves true u → ∃ x ∈ xs, n.Refreshes kind x) ∧
    ((∃ x ∈ xs, n.Refreshed kind x) ∨
      (∃ f, (a s).1 = .error f) ∧ (a s).2.packages = some (kind, .fresh) ∧ ∀ x ∈ xs, ¬ n.Relies kind x)

lemma FreshensFirst.awaits (hkind : kind.refreshCommand? ≠ none) (hs : s.packages = some (kind, .fresh))
    {a : NodeM σ α} (ha : n.FreshensFirst kind a) : ∃ xs, n.Leads s (a s).2 xs ∧
      (n.Serves true s → ∃ x ∈ xs, n.Refreshes kind x) ∧
      ((∃ x ∈ xs, n.Refreshed kind x) ∨
        (∃ f, (a s).1 = .error f) ∧ (a s).2.packages = some (kind, .fresh) ∧
          ∀ x ∈ xs, ¬ n.Relies kind x) := by
  obtain ⟨rest, rfl, hrest⟩ := ha
  obtain ⟨hmanager, xs, hleads, hrefreshing⟩ := ensureFresh_cases (n := n) hs
  have hunused : ∀ x ∈ xs, ¬ n.Relies kind x := fun x hx hneeds =>
    (hrefreshing.apart_or_refreshes x hx).elim (not_relies_of_apart · hneeds) fun h =>
      not_refreshes_of_relies hneeds h.1
  rw [bind_apply]
  generalize n.ensureFresh kind s = out at hmanager hleads hrefreshing ⊢
  rcases out with ⟨r, t⟩
  cases hrefreshing with
  | needless hnone => exact absurd hnone hkind
  | @refreshed asked x hasked hrefreshed =>
    obtain ⟨-, ys, hleads', -⟩ := hrest () t
    have hx : x ∈ asked ++ [x] ++ ys := by simp
    exact ⟨_, hleads.trans hleads', fun _ => ⟨x, hx, hrefreshed.1⟩, .inl ⟨x, hx, hrefreshed⟩⟩
  | @failed f asked x hasked hrefreshes hfailed =>
    exact ⟨_, hleads, fun _ => ⟨x, by simp, hrefreshes⟩, .inr ⟨⟨f, rfl⟩, hmanager, hunused⟩⟩
  | stopped hasked hunready =>
    exact ⟨xs, hleads, fun hserves => absurd hserves hunready, .inr ⟨⟨_, rfl⟩, hmanager, hunused⟩⟩

lemma awaitsRefresh_managed (hkind : kind.refreshCommand? ≠ none) (hs : s.packages ≠ some (kind, ⟨true⟩))
    {a : PackageKind → NodeM σ α} (ha : n.FreshensFirst kind (a kind)) :
    n.AwaitsRefresh kind (n.packageManager >>= a) s := by
  intro u hu
  have hcases := packageManager_cases (n := n) s
  rw [bind_of_ok hu]
  rw [hu] at hcases
  cases hcases with
  | @known _ view hknown =>
    obtain ⟨done⟩ := view
    cases done with
    | true => exact absurd hknown hs
    | false => exact ha.awaits hkind hknown
  | chosen _ haside hchosen =>
    obtain ⟨ws, hchoosing, hws⟩ := haside.hands
    obtain ⟨xs, hleads, htries, hends⟩ := ha.awaits hkind hchosen
    have hmem {x : Exchange} (hx : x ∈ xs) : x ∈ ws ++ xs := List.mem_append_right _ hx
    refine ⟨ws ++ xs, hchoosing.trans hleads, fun hserves => ?_, ?_⟩
    · obtain ⟨x, hx, hrefreshes⟩ := htries hserves
      exact ⟨x, hmem hx, hrefreshes⟩
    · refine hends.imp (fun ⟨x, hx, hdone⟩ => ⟨x, hmem hx, hdone⟩) fun ⟨hfailed, hstale, hunused⟩ => ?_
      exact ⟨hfailed, hstale, List.forall_mem_append.mpr
        ⟨fun x hx => not_relies_of_apart (hws x hx), hunused⟩⟩

end Retry

section Course

/-- What a node may do next: something beside its packages, an installation, or a question to the
repositories. -/
inductive Turn (n : Node σ) (s : NodeState σ) : NodeState σ → Prop where
  | aside {t : NodeState σ} (h : n.Aside s t) : Turn n s t
  | install (packages : List String) : Turn n s (n.installPackages packages s).2
  | query (package : String) : Turn n s (n.inRepository package s).2

def Course (n : Node σ) : NodeState σ → NodeState σ → Prop := Relation.ReflTransGen n.Turn

instance (n : Node σ) : IsPreorder (NodeState σ) n.Course where
  refl _ := .refl
  trans _ _ _ := .trans

lemma Faithful.turn (hkind : kind.refreshCommand? ≠ none) (h : n.Faithful kind s t) (h' : n.Turn t u) :
    n.Faithful kind s u := by
  cases h' with
  | aside haside => exact h.aside haside
  | query package => exact h.managed hkind fun _ => freshensFirst_inRepositoryOf package
  | install packages =>
    by_cases hnone : packages = []
    · subst hnone
      -- Only the manager is found out.
      refine h.aside ?_
      have hnothing : n.installPackages [] = (do let _ ← n.packageManager; return ()) := rfl
      rw [hnothing]
      exact (aside_packageManager.bind fun _ => within_pure ()) t
    · exact h.managed hkind fun _ => freshensFirst_installWith hnone

lemma faithful_of_course (hkind : kind.refreshCommand? ≠ none) (hs : s.packages = none)
    (h : n.Course s t) : n.Faithful kind s t := by
  induction h with
  | refl => exact faithful_of_unknown hs
  | tail _ hturn ih => exact ih.turn hkind hturn

lemma course_of_aside {a : NodeM σ α} (h : Within n.Aside a) : Within n.Course a :=
  fun s => .single (.aside (h s))

lemma course_installPackages (packages : List String) : Within n.Course (n.installPackages packages) :=
  fun _ => .single (.install packages)

lemma course_inRepository (package : String) : Within n.Course (n.inRepository package) :=
  fun _ => .single (.query package)

end Course

end HostProbe.Node
