import HostProbe.Proofs.Tool.Growth

/-! Every resolution grows the tools of its node: first what the pieces of a resolution do, given a
way to resolve ids that grows them, then resolutions inside one another to any depth. -/

namespace HostProbe.ToolRegistry

open ToolM

variable {σ α β : Type}

def Grown (r : ToolRegistry σ) (s t : Equipped σ) : Prop := Grows r s.tools t.tools

instance (r : ToolRegistry σ) : IsPreorder (Equipped σ) (Grown r) where
  refl _ := .refl _
  trans _ _ _ := .trans

/-- A way to resolve ids that grows the tools, and caches the tool that it returns and no tool for
an id that it fails on. -/
def Resolver (r : ToolRegistry σ) (inner : String → ToolM σ Tool) : Prop :=
  ∀ id s, Grows r s.tools (inner id s).2.tools ∧
    (inner id s).2.tools.find? id = match (inner id s).1 with
      | .ok t => some t
      | .error _ => s.tools.find? id

variable {r : ToolRegistry σ} {n : Node σ} {e : ToolEntry σ}

section Pieces

lemma grown_onNode (a : NodeM σ α) : Within (Grown r) (onNode a) := fun _ => .refl _

lemma grown_run {resolve : ToolRequest → ToolM σ Tool} (h : ∀ w, Within (Grown r) (resolve w))
    (p : Procedure σ α) : Within (Grown r) (p.run resolve) := by
  induction p with
  | done x => exact fun s => .refl _
  | step γ a next ih => exact fun s => ih (onNode a s).1 (onNode a s).2
  | request w next ih => exact fun s => (h w s).trans (ih _ _)
  | look next ih => exact fun s => ih s.tools.resolved s

lemma bears_grown : r.Bears n (Grown r) where
  os := grown_onNode _
  report _ _ _ := grown_onNode _
  next s k := .next s.tools k
  probe _ _ _ _ h := grown_run h _
  install _ _ _ _ h := grown_run h _

end Pieces

variable {inner : String → ToolM σ Tool}

lemma Resolver.grown (h : Resolver r inner) (id : String) : Within (Grown r) (inner id) :=
  fun s => (h id s).1

lemma Resolver.contains_of_resolveAll (h : Resolver r inner) {ids : List String} {s s' : Equipped σ}
    (hrun : resolveAll inner ids s = (.ok (), s')) : ∀ id ∈ ids, s'.tools.contains id = true := by
  induction ids generalizing s with
  | nil => simp
  | cons id rest ih =>
    have hfound := (h id s).2
    rw [resolveAll, bind_apply] at hrun
    generalize inner id s = out at hrun hfound
    rcases out with ⟨_ | t, s₁⟩
    · cases hrun
    · dsimp only at hrun
      have hrest := (within_resolveAll h.grown rest).of_eq hrun
      rintro x (_ | ⟨_, hx⟩)
      · exact hrest.contains (ToolCache.contains_iff.mpr ⟨t, hfound⟩)
      · exact ih hrun x hx

lemma Resolver.contains_of_obtain (h : Resolver r inner) (he : e ∈ r.entries) {s s' : Equipped σ}
    {t : Tool} (hrun : r.obtain e n inner s = (.ok t, s')) :
    ∀ d ∈ e.dependencies, s'.tools.contains d = true := by
  intro d hd
  obtain ⟨_, s₁, hall, hprovide⟩ := bind_eq_ok hrun
  have hgrown := (bears_grown.provide he (within_supply h.grown)).of_eq hprovide
  exact hgrown.contains (h.contains_of_resolveAll hall d hd)

lemma resolver_throw (f : String → Fault) : Resolver r fun id => (throw (f id) : ToolM σ Tool) :=
  fun _ _ => ⟨.refl _, rfl⟩

lemma Resolver.resolveWith (h : Resolver r inner) : Resolver r (r.resolveWith n inner) := by
  intro id s
  cases he : r.find? id with
  | none =>
    rw [resolveWith_of_unknown he]
    exact ⟨.refl _, rfl⟩
  | some e =>
    cases ht : s.tools.find? id with
    | some t =>
      rw [resolveWith_of_cached he ht]
      exact ⟨.refl _, ht⟩
    | none =>
      by_cases hm : id ∈ s.tools.resolving
      · rw [resolveWith_of_marked he ht hm]
        exact ⟨.refl _, ht⟩
      · have hentry := mem_of_find? he
        have hobtain := bears_grown.obtain (n := n) hentry h.grown { s with tools := s.tools.begin id }
        have hdeps (t : Tool) (s' : Equipped σ)
            (hrun : r.obtain e n inner { s with tools := s.tools.begin id } = (.ok t, s')) :
            ∀ x, r.DependsOn id x → s'.tools.contains x = true :=
          fun x hx => h.contains_of_obtain hentry hrun x ((dependsOn_iff he).mp hx)
        rw [resolveWith_of_fresh he ht hm]
        generalize r.obtain e n inner { s with tools := s.tools.begin id } = out at hobtain hdeps ⊢
        rcases out with ⟨_ | t, s'⟩
        · exact ⟨hobtain.finish hm, (hobtain.ofMarked List.mem_cons_self).trans ht⟩
        · exact ⟨hobtain.finish_insert hm ht (hdeps t s' rfl), ToolCache.find?_insert_self⟩

lemma resolver_resolveUpTo {bottom : String → ToolM σ Tool} (h : Resolver r bottom) (depth : Nat) :
    Resolver r (r.resolveUpTo n bottom depth) := by
  induction depth with
  | zero => exact h
  | succ depth ih => exact ih.resolveWith

lemma resolver_resolveById : Resolver r (r.resolveById n) :=
  resolver_resolveUpTo (resolver_throw _) _

end HostProbe.ToolRegistry
