import HostProbe.Cli.CommandLine
import HostProbe.Proofs.Kdump.DumpPath
import HostProbe.Proofs.Kdump.Order

/-! Steps of a session, in any order and failing or not. How far the session got is told by the last
step that succeeded, setting up goes through its stages in order, and the dumps are moved only where
the machine confirmed that they can go there. -/

namespace HostProbe

open HostProbe.Text NodeM Procedure

variable {σ α β : Type} {n : Node σ}

section Kept

variable {R : NodeState σ → NodeState σ → Prop} [IsPreorder (NodeState σ) R]

lemma within_runFrom {plan : Retry.Plan Fault} {notify : Retry.Event Fault → NodeM σ Unit}
    {op : NodeM σ (Except Fault α)} (hnotify : ∀ e, Within R (notify e)) (hop : Within R op)
    (left attempt waited : Nat) : Within R (plan.runFrom notify op left attempt waited) := by
  induction left generalizing attempt waited with
  | zero =>
    rw [Retry.Plan.runFrom]
    refine (hnotify _).bind fun _ => hop.bind fun outcome => ?_
    cases outcome with
    | ok value => exact (hnotify _).bind fun _ => within_pure _
    | error e =>
      dsimp only
      split
      · exact (hnotify _).bind fun _ => within_pure _
      · exact (hnotify _).bind fun _ => within_pure _
  | succ left ih =>
    rw [Retry.Plan.runFrom]
    refine (hnotify _).bind fun _ => hop.bind fun outcome => ?_
    cases outcome with
    | ok value => exact (hnotify _).bind fun _ => within_pure _
    | error e =>
      dsimp only
      split
      · exact (hnotify _).bind fun _ => ih _ _
      · exact (hnotify _).bind fun _ => within_pure _

lemma within_untilMet (h : n.Respects R) (hclock : ∀ s clock, R s { s with clock }) {operation : String}
    {policy : RetryPolicy} {attempt : NodeM σ α} (hattempt : Within R attempt) :
    Within R (Node.untilMet operation policy attempt) := by
  have hnotify : ∀ e, Within R (Node.noteAttempt (σ := σ) operation e) := by
    intro e
    unfold Node.noteAttempt
    split
    · refine (h.within_log _ _ _).bind fun _ => ?_
      split
      · exact fun s => hclock s _
      · exact within_pure ()
    · exact within_pure ()
  have hop : Within R (NodeM.outcome attempt) := fun s => by
    rw [outcome_eq_settled]
    exact hattempt s
  refine (within_runFrom hnotify hop _ _ _).bind fun result => ?_
  cases result with
  | ok value => exact within_pure value
  | error failure => exact within_throw _

omit [IsPreorder (NodeState σ) R] in
lemma upholds_check {c : Prop} [Decidable c] {f : Fault} {Q : β → Prop} {rest : Unit → Procedure σ β}
    (h : ∀ u, (rest u).Upholds R Q) :
    (if c then (throw f : Procedure σ Unit) >>= rest else rest ()).Upholds R Q := by
  split
  · exact Upholds.bind (Q := fun _ => False) (upholds_throw f) fun _ => False.elim
  · exact h ()

namespace Kdump

variable (h : n.Respects R) (hstore : ∀ key result, Within R (Node.store (σ := σ) key result))
  (hclock : ∀ s clock, R s { s with clock })

include h

lemma within_checkDump (k : Kdump) : Within R (k.checkDump n) := by
  refine (within_get.bind fun s => within_pure _).bind fun path => (within_liftM _).bind fun arg => ?_
  refine (h.execute _ _).bind fun result => ?_
  split
  · exact within_throw _
  · exact within_pure ()

include hstore

lemma within_requireLoaded : Within R (requireLoaded n) := by
  refine (h.read hstore _ _ _).bind fun value => ?_
  split
  · exact within_pure ()
  · exact within_throw _

include hclock

lemma upholds_checkLoaded (c : Config) (crashkernel : String) :
    (checkLoaded n c crashkernel).Upholds R fun _ => True := by
  refine upholds_tool_bind _ fun _ => upholds_ofNode_bind (h.read hstore _ _ _) fun cmdline => ?_
  refine upholds_check fun _ => upholds_ofNode_bind (h.pathExists _) fun present => ?_
  refine upholds_check fun _ => ?_
  refine upholds_ofNode_bind (within_untilMet h hclock (within_requireLoaded h hstore)) fun _ => ?_
  refine upholds_ofNode_bind (h.read hstore _ _ _) fun map => ?_
  split
  · exact upholds_throw _
  · exact upholds_pure trivial

end Kdump

end Kept

namespace KdumpSession

open Cli (KdumpStep)

variable (n) (c : Config)

def goal : KdumpStep → KdumpProgress
  | .configure => .pendingReboot
  | .verifyLoaded => .loaded
  | .verifyDump => .dumpVerified

def step (k : KdumpSession) : KdumpStep → Procedure σ KdumpSession
  | .configure => k.configure n
  | .verifyLoaded => k.verifyLoaded n c
  | .verifyDump => k.verifyDump n

def checks (k : KdumpSession) : KdumpStep → Procedure σ Unit
  | .configure => k.prepare n
  | .verifyLoaded => Kdump.checkLoaded n c k.crashkernel
  | .verifyDump => ofNode (k.kdump.checkDump n)

def attempt (held : KdumpSession × Equipped σ) (step : KdumpStep) :
    Except Fault KdumpSession × Equipped σ :=
  (ToolRegistry.builtIn c).perform n (held.1.step n c step) held.2

def take (held : KdumpSession × Equipped σ) (step : KdumpStep) : KdumpSession × Equipped σ :=
  match attempt n c held step with
  | (.ok k, s) => (k, s)
  | (.error _, s) => (held.1, s)

def succeeded (held : KdumpSession × Equipped σ) : List KdumpStep → List KdumpStep
  | [] => []
  | step :: rest =>
    let others := succeeded (take n c held step) rest
    if (attempt n c held step).1.isOk then step :: others else others

variable {n c}

lemma step_eq (k : KdumpSession) (step : KdumpStep) :
    k.step n c step = k.checks n c step >>= fun _ => ofNode (k.advance n (goal step)) := by
  cases step <;> rfl

lemma advance_fst (k : KdumpSession) (next : KdumpProgress) (s : NodeState σ) :
    (k.advance n next s).1 = .ok { k with progress := next } := rfl

lemma attempt_eq_ok {held : KdumpSession × Equipped σ} {step : KdumpStep} {k : KdumpSession}
    {s : Equipped σ} (h : attempt n c held step = (.ok k, s)) :
    k = { held.1 with progress := goal step } := by
  change (held.1.step n c step).run (Kdump.builtInTools c n) held.2 = _ at h
  rw [step_eq, run_bind] at h
  obtain ⟨-, t, -, h⟩ := bind_eq_ok h
  exact (Except.ok.inj (congrArg Prod.fst h)).symm

lemma take_progress (held : KdumpSession × Equipped σ) (step : KdumpStep) :
    (take n c held step).1 = if (attempt n c held step).1.isOk
      then { held.1 with progress := goal step } else held.1 := by
  unfold take
  rcases hrun : attempt n c held step with ⟨f | k, s⟩
  · rfl
  · exact attempt_eq_ok hrun

lemma foldl_take (first : KdumpSession × Equipped σ) (steps : List KdumpStep) :
    (steps.foldl (take n c) first).1 = { first.1 with
      progress := ((succeeded n c first steps).getLast?.map goal).getD first.1.progress } := by
  induction steps generalizing first with
  | nil => rfl
  | cons step rest ih =>
    rw [List.foldl_cons, ih, take_progress, succeeded]
    cases (attempt n c first step).1.isOk with
    | false => rfl
    | true =>
      rw [if_pos rfl, if_pos rfl, List.getLast?_cons]
      cases (succeeded n c (take n c first step) rest).getLast? <;> rfl

lemma begun_progress {crashkernel : Option String} {s t : Equipped σ} {k : KdumpSession}
    (h : begun c n crashkernel s = (.ok k, t)) : k.progress = .notConfigured := by
  rw [begun, start_apply] at h
  rcases hrun : (ToolRegistry.builtIn c).resolve n .kdump s with ⟨f | tool, u⟩
  · rw [hrun] at h
    cases h
  · rw [hrun] at h
    dsimp only at h
    cases hk : Kdump.ofTool? tool with
    | none =>
      rw [hk] at h
      cases h
    | some kdump =>
      rw [hk] at h
      cases h
      rfl

lemma dumpPaths_of_verify {held : KdumpSession × Equipped σ} {step : KdumpStep} (h : step ≠ .configure) :
    (attempt n c held step).2.node.dumpPaths = held.2.node.dumpPaths := by
  have hkept := n.respects_kept
  have hr := ToolRegistry.respects_builtIn hkept Node.within_store c
  have hadvance : ∀ next, Within Kept (held.1.advance n next) := fun next =>
    (hkept.within_log _ _ _).bind fun _ => within_pure _
  have hclock : ∀ (s : NodeState σ) clock, Kept s { s with clock } := fun s clock =>
    ⟨rfl, rfl, rfl, List.prefix_refl _⟩
  have hchecks : (held.1.checks n c step).Upholds Kept fun _ => True := by
    cases step with
    | configure => exact absurd rfl h
    | verifyLoaded => exact Kdump.upholds_checkLoaded hkept Node.within_store hclock c _
    | verifyDump => exact upholds_ofNode (Kdump.within_checkDump hkept _)
  have hstep : (held.1.step n c step).Upholds Kept fun _ => True := by
    rw [step_eq]
    exact hchecks.bind fun _ _ => upholds_ofNode (hadvance _)
  exact (ToolRegistry.within_perform hr (fun _ _ h => h) hstep held.2).node.dumpPaths

/-- After any steps a session is where the last step took it that succeeded, and nothing else of it
changed: each step takes it further only at its end, after all checks, and then it cannot fail. In the
next step, setting up goes through its stages in order and is done when they are, and the dumps move
only when the machine confirmed that they can. -/
theorem holds_last_success_and_sets_up_in_stages (n : Node σ) (c : Config)
    (first : KdumpSession × Equipped σ) (steps : List KdumpStep) :
    let held := steps.foldl (take n c) first
    held.1 = { first.1 with
      progress := ((succeeded n c first steps).getLast?.map goal).getD first.1.progress } ∧
    (∀ (k : KdumpSession) step,
      k.step n c step = (k.checks n c step >>= fun _ => ofNode (k.advance n (goal step))) ∧
      ∀ s : NodeState σ, (k.advance n (goal step) s).1 = .ok { k with progress := goal step }) ∧
    (∀ crashkernel s k t, begun c n crashkernel s = (.ok k, t) → k.progress = .notConfigured) ∧
    ∀ step,
      let out := attempt n c held step
      let xs := n.exchanges held.2.node out.2.node
      (step = .configure → ∃ release, held.1.kdump.SetUp n held.1.crashkernel release xs out.1.isOk) ∧
      (held.1.kdump.dumpPathIn out.2.node ≠ held.1.kdump.dumpPathIn held.2.node →
        step = .configure ∧ held.1.kdump.Moved n xs) := by
  intro held
  refine ⟨foldl_take first steps, fun k step => ⟨step_eq k step, advance_fst k _⟩,
    fun _ _ _ _ => begun_progress, fun step => ?_⟩
  by_cases hstep : step = .configure
  · subst hstep
    obtain ⟨release, xs, hleads, hstaged, hpaths⟩ := Kdump.follows_configure c held.1 held.2
    intro out exchanged
    obtain rfl : exchanged = xs := hleads.exchanges_eq
    refine ⟨fun _ => ⟨release, .of_staged hstaged⟩, fun hmoved => ⟨rfl, hpaths.resolve_left fun h => ?_⟩⟩
    exact hmoved (Kdump.dumpPathIn_eq h)
  · refine ⟨fun h => absurd h hstep, fun hmoved => absurd ?_ hmoved⟩
    exact Kdump.dumpPathIn_eq (dumpPaths_of_verify hstep)

theorem holds_last_success_on_silent_machine :
    let n := Node.replying fun _ => ⟨0, "", ""⟩
    let os : Os := .named .redhat "CentOS" (.release 8 4 0)
    let steps := [KdumpStep.verifyDump, .configure, .verifyLoaded]
    ∃ v, kdumpVariants.select os = .ok v ∧
      let first : KdumpSession × Equipped Unit :=
        (⟨⟨0, v, os, {}⟩, "512M", .notConfigured⟩, Kdump.unprepared os)
      let held := steps.foldl (take n {}) first
      let out := attempt n {} held .configure
      succeeded n {} first steps = [.configure] ∧
      held.1 = { first.1 with progress := .pendingReboot } ∧ out.1.isOk = true ∧
      ∃ release, held.1.kdump.SetUp n "512M" release (n.exchanges held.2.node out.2.node) true := by
  intro n os steps
  let v := kdumpVariants.entries.head (by decide)
  refine ⟨v, rfl, ?_⟩
  intro first
  have hlast := holds_last_success_and_sets_up_in_stages n {} first steps
  have hsucceeded : succeeded n {} first steps = [.configure] := by decide +kernel
  have hok : (attempt n {} (steps.foldl (take n {}) first) .configure).1.isOk = true := by decide +kernel
  -- What is held is not run again to compare it.
  generalize steps.foldl (take n {}) first = held at hlast hok ⊢
  obtain ⟨hheld, -, -, hnext⟩ := hlast
  rw [hsucceeded] at hheld
  have hcrashkernel : held.1.crashkernel = "512M" := by rw [hheld]
  obtain ⟨release, hset⟩ := (hnext .configure).1 rfl
  rw [hok, hcrashkernel] at hset
  exact ⟨hsucceeded, hheld, hok, release, hset⟩

end KdumpSession

end HostProbe
