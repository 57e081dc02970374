import HostProbe.Proofs.Package.Aside

/-! Refreshing the view of the repositories: what is exchanged for it, how it ends, and what relies on it.
An installation and a question to the repositories make sure of a fresh view first. -/

namespace HostProbe

open Node NodeM

variable {σ α : Type} {n : Node σ} {kind other : PackageKind} {s t u : NodeState σ}
  {xs ys : List Exchange} {x : Exchange}

def Exchange.Succeeds (x : Exchange) : Prop := ∃ output, x.answer = .ok output ∧ output.exitCode = 0

namespace Node

section Trace

def Refreshes (n : Node σ) (kind : PackageKind) (x : Exchange) : Prop :=
  ∃ command, kind.refreshCommand? = some command ∧ n.Concerns command x

def Refreshed (n : Node σ) (kind : PackageKind) (x : Exchange) : Prop :=
  n.Refreshes kind x ∧ x.Succeeds

def Relies (n : Node σ) (kind : PackageKind) (x : Exchange) : Prop :=
  ∃ command, kind.Needs command ∧ n.Concerns command x

lemma not_refreshes_of_apart (h : n.Apart x.request.command) : ¬ n.Refreshes kind x :=
  fun ⟨command, hrefresh, hline⟩ => h kind command (.refresh hrefresh) hline

lemma not_refreshed_of_apart (h : n.Apart x.request.command) : ¬ n.Refreshed kind x :=
  fun hx => not_refreshes_of_apart h hx.1

lemma not_relies_of_apart (h : n.Apart x.request.command) : ¬ n.Relies kind x :=
  fun ⟨command, hneeds, hline⟩ => h kind command (.use hneeds) hline

lemma not_refreshes_of_relies (h : n.Relies other x) : ¬ n.Refreshes kind x := by
  rintro ⟨command, hrefresh, hline⟩
  obtain ⟨command', hneeds, hline'⟩ := h
  obtain rfl := eq_of_lineOf hline hline'
  obtain rfl := PackageKind.eq_of_issues (.refresh hrefresh) (.use hneeds)
  exact hneeds.ne_refresh hrefresh

lemma eq_of_refreshes (h : n.Refreshes kind x) (h' : n.Refreshes other x) : kind = other := by
  obtain ⟨command, hrefresh, hline⟩ := h
  obtain ⟨command', hrefresh', hline'⟩ := h'
  obtain rfl := eq_of_lineOf hline hline'
  exact PackageKind.eq_of_issues (.refresh hrefresh) (.refresh hrefresh')

lemma eq_of_relies (h : n.Relies kind x) (h' : n.Relies other x) : kind = other := by
  obtain ⟨command, hneeds, hline⟩ := h
  obtain ⟨command', hneeds', hline'⟩ := h'
  obtain rfl := eq_of_lineOf hline hline'
  exact PackageKind.eq_of_issues (.use hneeds) (.use hneeds')

end Trace

section Freshening

inductive Refreshing (n : Node σ) (kind : PackageKind) (ready : Prop) :
    Except Fault Unit → List Exchange → Prop where
  | needless (hnone : kind.refreshCommand? = none) : Refreshing n kind ready (.ok ()) []
  | refreshed {asked : List Exchange} {x : Exchange} (hasked : ∀ y ∈ asked, asksSudo y.request.command)
      (hrefreshed : n.Refreshed kind x) : Refreshing n kind ready (.ok ()) (asked ++ [x])
  | failed {f : Fault} {asked : List Exchange} {x : Exchange}
      (hasked : ∀ y ∈ asked, asksSudo y.request.command) (hrefreshes : n.Refreshes kind x)
      (hfailed : ¬ x.Succeeds) : Refreshing n kind ready (.error f) (asked ++ [x])
  | stopped {f : Fault} {asked : List Exchange} (hasked : ∀ y ∈ asked, asksSudo y.request.command)
      (hunready : ¬ ready) : Refreshing n kind ready (.error f) asked

lemma Refreshing.apart_or_refreshes {ready : Prop} {r : Except Fault Unit}
    (h : n.Refreshing kind ready r xs) : ∀ y ∈ xs,
      n.Apart y.request.command ∨ n.Refreshes kind y ∧ (y.Succeeds → r = .ok ()) := by
  have hlast {asked : List Exchange} {x : Exchange} (hasked : ∀ y ∈ asked, asksSudo y.request.command)
      (hx : n.Refreshes kind x ∧ (x.Succeeds → r = .ok ())) : ∀ y ∈ asked ++ [x],
        n.Apart y.request.command ∨ n.Refreshes kind y ∧ (y.Succeeds → r = .ok ()) :=
    List.forall_mem_append.mpr ⟨fun y hy => .inl (apart_of_asksSudo (hasked y hy)),
      List.forall_mem_singleton.mpr (.inr hx)⟩
  cases h with
  | needless _ => simp
  | refreshed hasked hrefreshed => exact hlast hasked ⟨hrefreshed.1, fun _ => rfl⟩
  | failed hasked hrefreshes hfailed => exact hlast hasked ⟨hrefreshes, fun h => absurd h hfailed⟩
  | stopped hasked _ => exact fun y hy => .inl (apart_of_asksSudo (hasked y hy))

lemma succeeds_iff (line message : String) (opts : ExecOptions) (x : Exchange) : x.Succeeds ↔
    ∃ r, (x.answer.bind fun output => verdict (opts.successOr message) (resultOf line output)) = .ok r := by
  simp only [Exchange.Succeeds, verdict, ExecOptions.successOr, ExecutionResult.requireCode, resultOf]
  cases x.answer with
  | error f => simp [Except.bind]
  | ok output => by_cases hcode : output.exitCode = 0 <;> simp [Except.bind, hcode]

lemma refresh_cases (kind : PackageKind) (s : NodeState σ) :
    SameManager s (n.refresh kind s).2 ∧ ∃ xs, n.Leads s (n.refresh kind s).2 xs ∧
      n.Refreshing kind (n.Serves true s) (n.refresh kind s).1 xs := by
  unfold Node.refresh
  cases hcommand : kind.refreshCommand? with
  | none => exact ⟨rfl, [], leads_of_eq rfl rfl, .needless hcommand⟩
  | some command =>
    have hnul : ¬ Shell.holdsNul command := by
      have hall : ∀ kind ∈ PackageKind.all, ∀ command ∈ kind.refreshCommand?, ¬ Shell.holdsNul command := by
        decide +kernel
      exact hall kind (by cases kind <;> decide) command hcommand
    have hcases := execute_cases (n := n) command
      (packageOptions.successOr "failed to refresh package metadata") s
    dsimp only
    rw [bind_apply]
    generalize n.execute command _ s = out at hcases ⊢
    cases hcases with
    | stopped hleads hasked hmanager hunready =>
      obtain ⟨line, hline⟩ := exists_lineOf n packageOptions hnul
      exact ⟨hmanager, _, hleads, .stopped hasked (hunready line rfl hline)⟩
    | @answered x t asked hleads hasked hmanager hline =>
      have hrefreshes : n.Refreshes kind x := ⟨command, hcommand, hline⟩
      have hsucceeds := succeeds_iff x.request.command "failed to refresh package metadata"
        packageOptions x
      generalize (x.answer.bind fun output => verdict _ (resultOf x.request.command output)) = r
        at hsucceeds ⊢
      cases r with
      | error f =>
        exact ⟨hmanager, _, hleads, .failed hasked hrefreshes fun h => nomatch hsucceeds.mp h⟩
      | ok r => exact ⟨hmanager, _, hleads, .refreshed hasked ⟨hrefreshes, hsucceeds.mpr ⟨r, rfl⟩⟩⟩

lemma ensureFresh_of_fresh (hs : s.packages = some (kind, ⟨true⟩)) :
    n.ensureFresh kind s = (.ok (), s) := by
  simp [ensureFresh, Once.ensure, hs]

lemma ensureFresh_cases (hs : s.packages = some (kind, .fresh)) :
    (n.ensureFresh kind s).2.packages = some (kind, ⟨(n.ensureFresh kind s).1.isOk⟩) ∧
      ∃ xs, n.Leads s (n.ensureFresh kind s).2 xs ∧
        n.Refreshing kind (n.Serves true s) (n.ensureFresh kind s).1 xs := by
  let marked : NodeState σ := { s with packages := some (kind, ⟨true⟩) }
  obtain ⟨hsame, xs, hleads, hrefreshing⟩ := refresh_cases (n := n) kind marked
  have hmarked : n.Leads s marked [] := leads_of_eq rfl rfl
  have hserves : n.Serves true s → n.Serves true marked := fun h => h.congr rfl rfl rfl rfl
  simp only [ensureFresh, Once.ensure, hs, Option.map_some, Option.getD_some, Once.fresh,
    Bool.false_eq_true, if_false]
  generalize n.refresh kind marked = out at hsame hleads hrefreshing ⊢
  rcases out with ⟨f | ⟨⟩, t⟩
  · refine ⟨?_, xs, ?_, ?_⟩
    · change t.packages.map _ = _
      rw [show t.packages = some (kind, ⟨true⟩) from hsame]
      rfl
    · have hunmarked (packages) : n.Leads t { t with packages } [] := leads_of_eq rfl rfl
      simpa using hmarked.trans (hleads.trans (hunmarked _))
    · cases hrefreshing with
      | failed hasked hrefreshes hfailed => exact .failed hasked hrefreshes hfailed
      | stopped hasked hunready => exact .stopped hasked (hunready ∘ hserves)
  · refine ⟨hsame, xs, hmarked.trans hleads, ?_⟩
    cases hrefreshing with
    | needless hnone => exact .needless hnone
    | refreshed hasked hrefreshed => exact .refreshed hasked hrefreshed

end Freshening

section Reliance

/-- Only what relies on a fresh view is sent, beside what comes before any command, and the manager stays. -/
def Relying (n : Node σ) (kind : PackageKind) (s t : NodeState σ) : Prop :=
  SameManager s t ∧ ∃ xs, n.Leads s t xs ∧ ∀ x ∈ xs, n.Apart x.request.command ∨ n.Relies kind x

instance (n : Node σ) (kind : PackageKind) : IsPreorder (NodeState σ) (n.Relying kind) where
  refl s := ⟨refl s, [], leads_of_eq rfl rfl, by simp⟩
  trans := by
    rintro s t u ⟨hsame, xs, hleads, hxs⟩ ⟨hsame', ys, hleads', hys⟩
    exact ⟨IsTrans.trans _ _ _ hsame hsame', xs ++ ys, hleads.trans hleads',
      List.forall_mem_append.mpr ⟨hxs, hys⟩⟩

lemma relying_log (level : LogLevel) (message : String) (fields : List (String × String)) :
    Within (n.Relying kind) (log level message fields) :=
  fun _ => ⟨rfl, [], leads_of_eq rfl rfl, by simp⟩

lemma relying_execute {command : String} (h : kind.Needs command) {opts : ExecOptions}
    (hroot : opts.asRoot = true) (hshell : opts.shell = true) :
    Within (n.Relying kind) (n.execute command opts) := by
  have hask : opts.ask command = packageOptions.ask command := by
    rw [ExecOptions.ask, hroot, hshell]
    rfl
  intro s
  have hcases := execute_cases (n := n) command opts s
  generalize n.execute command opts s = out at hcases ⊢
  cases hcases with
  | stopped hleads hasked hmanager _ =>
    exact ⟨hmanager, _, hleads, fun x hx => .inl (apart_of_asksSudo (hasked x hx))⟩
  | answered hleads hasked hmanager hline =>
    rw [hask] at hline
    refine ⟨hmanager, _, hleads, List.forall_mem_append.mpr
      ⟨fun x hx => .inl (apart_of_asksSudo (hasked x hx)), ?_⟩⟩
    exact List.forall_mem_singleton.mpr (.inr ⟨command, h, hline⟩)

def FreshensFirst (n : Node σ) (kind : PackageKind) (a : NodeM σ α) : Prop :=
  ∃ rest : Unit → NodeM σ α, a = n.ensureFresh kind >>= rest ∧ ∀ x, Within (n.Relying kind) (rest x)

lemma freshensFirst_installWith {packages : List String} (h : packages ≠ []) :
    n.FreshensFirst kind (n.installWith kind packages) := by
  unfold installWith
  rw [if_neg (by simpa using h)]
  refine ⟨_, rfl, fun _ => (within_liftM _).bind fun names => (relying_log _ _ _).bind fun _ => ?_⟩
  refine Within.bind (relying_execute (.install names) rfl rfl) fun result => ?_
  split
  · exact (within_liftM _).bind fun _ => within_pure _
  · exact within_throw _

lemma freshensFirst_inRepositoryOf (package : String) :
    n.FreshensFirst kind (n.inRepositoryOf kind package) := by
  refine ⟨_, rfl, fun _ => (within_liftM _).bind fun name => ?_⟩
  refine Within.bind (relying_execute (.query name) rfl rfl) fun result => ?_
  split
  · exact within_pure _
  · exact within_pure _

end Reliance

end Node

end HostProbe
