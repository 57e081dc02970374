import HostProbe.Proofs.Node.Cache
import HostProbe.Proofs.Node.Exchange

/-! What is recalled of earlier commands, and whether it still holds. A stored result stays until the
command is forced or the node is closed; the machine would give it again if nothing was sent since
that changes its answer. -/

namespace HostProbe

open NodeM

variable {σ : Type}

namespace Transport

variable {way : Transport σ} {line : String} {changes : String → Prop}

def Steady (way : Transport σ) (line : String) (changes : String → Prop) : Prop :=
  ∀ m c q, q.command = line → (∀ r, c = .run r → ¬ changes r.command) →
    (way.run q (way.after m c)).1 = (way.run q m).1

variable (h : way.Steady line changes)

include h

lemma Steady.answer_after {q : CommandRequest} (hq : q.command = line) {m : σ} {cs : List Contact}
    (hcs : ∀ x ∈ way.exchanges m cs, ¬ changes x.request.command) :
    (way.run q (cs.foldl way.after m)).1 = (way.run q m).1 := by
  induction cs generalizing m with
  | nil => rfl
  | cons c cs ih =>
    have hhere : ∀ r, c = .run r → ¬ changes r.command := by
      rintro r rfl
      exact hcs _ List.mem_cons_self
    have hrest : ∀ x ∈ way.exchanges (way.after m c) cs, ¬ changes x.request.command := by
      cases c with
      | connect => exact hcs
      | close => exact hcs
      | run r => exact fun x hx => hcs x (List.mem_cons_of_mem _ hx)
    exact (ih hrest).trans (h m c q hq hhere)

lemma Steady.answer_again (hline : ¬ changes line) {m : σ} {cs : List Contact}
    {earlier later : List Exchange} {x : Exchange} (hcs : way.exchanges m cs = earlier ++ x :: later)
    (hx : x.request.command = line) (hlater : ∀ y ∈ later, ¬ changes y.request.command) :
    (way.run x.request (cs.foldl way.after m)).1 = x.answer := by
  induction cs generalizing m earlier with
  | nil => cases earlier <;> cases hcs
  | cons c cs ih =>
    cases c with
    | connect => exact ih hcs
    | close => exact ih hcs
    | run r =>
      cases earlier with
      | nil =>
        obtain ⟨rfl, rfl⟩ := List.cons.inj hcs
        refine (h.answer_after hx hlater).trans (h m (.run r) r hx fun _ hr => ?_)
        cases hr
        exact hx ▸ hline
      | cons y earlier => exact ih (List.cons.inj hcs).2

end Transport

namespace Node

variable {n : Node σ} {s t u : NodeState σ}

lemma Leads.answer_again {line : String} {changes : String → Prop} {earlier later : List Exchange}
    {x : Exchange} (hleads : n.Leads s t (earlier ++ x :: later))
    (h : n.transport.Steady line changes) (hline : ¬ changes line) (hx : x.request.command = line)
    (hlater : ∀ y ∈ later, ¬ changes y.request.command) :
    (n.transport.run x.request t.machine).1 = x.answer := by
  obtain ⟨cs, -, hmachine, hcs⟩ := hleads
  rw [hmachine]
  exact h.answer_again hline hcs hx hlater

def Reaches (n : Node σ) (s t : NodeState σ) : Prop :=
  ∀ R : NodeState σ → NodeState σ → Prop, IsPreorder (NodeState σ) R → n.Respects R → R s t

instance : IsPreorder (NodeState σ) n.Reaches where
  refl s _ _ _ := refl s
  trans _ _ _ h h' R hR hn := IsTrans.trans _ _ _ (h R hR hn) (h' R hR hn)

lemma respects_reaches : n.Respects n.Reaches where
  connect s _ _ h := h.connect s
  run q s hs _ _ h := h.run q s hs
  logs s logs _ _ h := h.logs s logs
  sudoSupported s supported _ _ h := h.sudoSupported s supported
  os s os _ _ h := h.os s os
  packages s packages _ _ h := h.packages s packages

lemma Reaches.routine (h : n.Reaches s t) : Routine s t := h Routine inferInstance n.respects_routine

structure Carries (n : Node σ) (s t : NodeState σ) : Prop extends Kept s t where
  recalls : ∀ key result, s.results.lookup key = some result → t.results.lookup key = some result
  leads : ∃ xs, n.Leads s t xs

instance : IsPreorder (NodeState σ) n.Carries where
  refl s := ⟨.refl s, fun _ _ h => h, [], leads_of_eq rfl rfl⟩
  trans _ _ _ h h' := by
    obtain ⟨xs, hleads⟩ := h.leads
    obtain ⟨ys, hleads'⟩ := h'.leads
    exact ⟨h.toKept.trans h'.toKept,
      fun key result hr => h'.recalls key result (h.recalls key result hr), xs ++ ys, hleads.trans hleads'⟩

lemma respects_leads : n.Respects fun s t => ∃ xs, n.Leads s t xs where
  connect s := ⟨[], leads_connect s⟩
  run q _ _ := ⟨_, [.run q], rfl, rfl, rfl⟩
  logs _ _ := ⟨[], leads_of_eq rfl rfl⟩
  sudoSupported _ _ := ⟨[], leads_of_eq rfl rfl⟩
  os _ _ := ⟨[], leads_of_eq rfl rfl⟩
  packages _ _ := ⟨[], leads_of_eq rfl rfl⟩

instance : IsPreorder (NodeState σ) fun s t => ∃ xs, n.Leads s t xs where
  refl s := ⟨[], leads_of_eq rfl rfl⟩
  trans _ _ _ := by
    rintro ⟨xs, h⟩ ⟨ys, h'⟩
    exact ⟨xs ++ ys, h.trans h'⟩

lemma Reaches.leads (h : n.Reaches s t) : ∃ xs, n.Leads s t xs := h _ inferInstance respects_leads

lemma Reaches.carries (h : n.Reaches s t) : n.Carries s t where
  toKept := h.routine.toKept
  recalls _ _ hr := h.routine.results ▸ hr
  leads := h.leads

lemma respects_carries : n.Respects n.Carries := respects_reaches.mono fun _ _ h => h.carries

lemma within_executeCached {command : String} {opts : ExecOptions} (hforce : opts.forceRun = false) :
    Within n.Carries (n.executeCached command opts) := by
  intro s
  have hexecute := respects_reaches.execute (n := n) command opts s
  have hcases := n.executeCached_cases command opts s
  generalize n.executeCached command opts s = out at hcases ⊢
  cases hcases with
  | refused => exact refl s
  | served => exact refl s
  | failed _ _ hrun => exact (hrun ▸ hexecute).carries
  | @ran env result t _ hnew hrun =>
    have hreaches : n.Reaches s t := by simpa only [hrun] using hexecute
    have hcarries := hreaches.carries
    refine ⟨hcarries.toKept.trans (within_store _ _ t), fun key stored hstored => ?_, ?_⟩
    · -- The new result does not take the place of another one.
      have hne : key ≠ n.resultKey command opts env s := by
        rintro rfl
        rw [recalled, hforce, hstored] at hnew
        cases hnew
      exact (lookup_store_of_ne hne).trans (hcarries.recalls key stored hstored)
    · exact hcarries.leads

end Node

end HostProbe
