import HostProbe.Proofs.Node.Errand
import HostProbe.Retry.Report

/-! How a command ends. It is stopped before it is sent, after no more than the question for sudo; or one
line is sent for it, and the answer decides. What the node knows of its system and of the package manager
is left as it is, unless the command was to find it out. An operation that is tried again is told by its
attempts: the machine apart, only the operation itself can say that its condition is not met. -/

namespace HostProbe.Node

open NodeM

variable {σ : Type} {n : Node σ} {s : NodeState σ}

def SameManager (s t : NodeState σ) : Prop := t.packages = s.packages

instance : IsPreorder (NodeState σ) SameManager where
  refl _ := rfl
  trans _ _ _ h h' := h'.trans h

structure SameFacts (s t : NodeState σ) : Prop where
  os : t.os = s.os
  manager : SameManager s t

instance : IsPreorder (NodeState σ) SameFacts where
  refl s := ⟨rfl, refl s⟩
  trans _ _ _ h h' := ⟨h'.os.trans h.os, IsTrans.trans _ _ _ h.manager h'.manager⟩

section Facts

lemma sameFacts_connect : Within SameFacts n.connect := within_connect fun _ _ => ⟨rfl, rfl⟩

lemma sameFacts_close : Within SameFacts n.close := within_close fun _ _ => ⟨rfl, rfl⟩

lemma sameFacts_supportsSudo : Within SameFacts n.supportsSudo :=
  within_supportsSudo sameFacts_connect (fun _ => ⟨rfl, rfl⟩) fun _ _ => ⟨rfl, rfl⟩

lemma sameFacts_request (command : String) (opts : ExecOptions) :
    Within SameFacts (n.request command opts) :=
  within_request sameFacts_supportsSudo command opts sameFacts_connect

lemma sameFacts_execute (command : String) (opts : ExecOptions) :
    Within SameFacts (n.execute command opts) := by
  rw [execute_eq]
  refine (sameFacts_request command opts).bind fun q s => ?_
  obtain ⟨logs, hsend⟩ := n.send_apply opts q s
  rw [hsend]
  exact ⟨rfl, rfl⟩

end Facts

variable (command : String) (opts : ExecOptions)

inductive Executed (n : Node σ) (command : String) (opts : ExecOptions) (s : NodeState σ) :
    Except Fault ExecutionResult × NodeState σ → Prop where
  | stopped {f : Fault} {t : NodeState σ} {asked : List Exchange} (hleads : n.Leads s t asked)
      (hasked : ∀ x ∈ asked, asksSudo x.request.command) (hmanager : t.packages = s.packages)
      (hunready : ∀ line, opts.env = [] → n.lineOf (opts.ask command) = .ok line →
        ¬ n.Serves opts.asRoot s) : Executed n command opts s (.error f, t)
  | answered {x : Exchange} {t : NodeState σ} {asked : List Exchange}
      (hleads : n.Leads s t (asked ++ [x])) (hasked : ∀ x ∈ asked, asksSudo x.request.command)
      (hmanager : t.packages = s.packages)
      (hline : n.lineOf (opts.ask command) = .ok x.request.command) :
      Executed n command opts s
        (x.answer.bind fun output => verdict opts (resultOf x.request.command output), t)

lemma execute_cases (s : NodeState σ) : n.Executed command opts s (n.execute command opts s) := by
  obtain ⟨⟨asked, hbefore, hasked⟩, hline⟩ := hands_request (n := n) command opts s
  have hsame := (sameFacts_request (n := n) command opts s).manager
  rcases hrequest : n.request command opts s with ⟨f | q, t⟩
  · rw [hrequest] at hbefore hsame
    rw [execute_eq, bind_of_error hrequest]
    refine .stopped hbefore hasked hsame fun line henv hline hserves => ?_
    obtain ⟨q, u, hok, -⟩ := hserves.request henv hline
    cases hok.symm.trans hrequest
  · rw [hrequest] at hbefore hsame hline
    obtain ⟨logs, hsend⟩ := n.send_apply opts q t
    have hsent := leads_send (n := n) opts q t
    rw [execute_eq, bind_of_ok hrequest, hsend]
    rw [hsend] at hsent
    exact .answered (hbefore.trans hsent) hasked hsame (hline q rfl)

section System

abbrev systemOptions : ExecOptions := ExecOptions.quiet {}

def systemOf (r : ExecutionResult) : Os := if r.isSuccess then Os.Release.classify r.stdout else .unknown

inductive Detected (n : Node σ) (s : NodeState σ) : Except Fault Os × NodeState σ → Prop where
  | known {os : Os} (hknown : s.os = some os) : Detected n s (.ok os, s)
  | failed {f : Fault} {t : NodeState σ} (hunknown : s.os = none)
      (hrun : n.execute "cat /etc/os-release" systemOptions s = (.error f, t)) : Detected n s (.error f, t)
  | found {r : ExecutionResult} {t : NodeState σ} {logs : List LogEvent} (hunknown : s.os = none)
      (hrun : n.execute "cat /etc/os-release" systemOptions s = (.ok r, t)) :
      Detected n s (.ok (systemOf r), { t with logs, os := some (systemOf r) })

lemma os_cases (s : NodeState σ) : n.Detected s (n.os s) := by
  rw [Node.os, bind_of_ok (get_apply s)]
  cases hos : s.os with
  | some os => exact .known hos
  | none =>
    dsimp only
    rcases hrun : n.execute "cat /etc/os-release" systemOptions s with ⟨f | r, t⟩
    · have hdetect : n.detectOs s = (.error f, t) := bind_of_error hrun _
      rw [bind_of_error hdetect]
      exact .failed hos hrun
    · have hdetect : ∃ logs, n.detectOs s = (.ok (systemOf r), { t with logs }) := by
        rw [detectOs, bind_of_ok hrun, systemOf]
        split
        · exact ⟨_, rfl⟩
        · exact ⟨_, rfl⟩
      obtain ⟨logs, hdetect⟩ := hdetect
      rw [bind_of_ok hdetect]
      exact .found (t := t) hos hrun

lemma packageManager_of_known {kind : PackageKind} {view : Once} (h : s.packages = some (kind, view)) :
    n.packageManager s = (.ok kind, s) := by
  rw [packageManager, bind_of_ok (get_apply s), h]
  rfl

lemma packageManager_of_unknown (h : s.packages = none) :
    n.packageManager s = match n.os s with
      | (.error f, t) => (.error f, t)
      | (.ok os, t) => match PackageKind.ofOs os with
        | .error f => (.error f, t)
        | .ok kind => (.ok kind, { t with packages := some (kind, .fresh) }) := by
  rw [packageManager, bind_of_ok (get_apply s), h]
  dsimp only
  rw [bind_apply]
  rcases n.os s with ⟨f | os, t⟩
  · rfl
  · cases hkind : PackageKind.ofOs os with
    | error f =>
      dsimp only
      rw [hkind]
      rfl
    | ok kind =>
      dsimp only
      rw [hkind]
      rfl

end System

end HostProbe.Node

namespace HostProbe

open NodeM

variable {S σ α : Type}

section Retry

variable {n : Node σ} {view : S → NodeState σ} {asks : List Ask}

def Retried (limit : Nat) (repeated : List Exchange → Prop) (succeeded : List Exchange → Prop)
    (xs : List Exchange) : Prop :=
  ∃ tries last, xs = List.flatten tries ++ last ∧ tries.length < limit ∧ (∀ ys ∈ tries, repeated ys) ∧
    succeeded last

lemma Retried.cons {limit : Nat} {repeated succeeded : List Exchange → Prop} {ys xs : List Exchange}
    (hfirst : repeated ys) (h : Retried limit repeated succeeded xs) :
    Retried (limit + 1) repeated succeeded (ys ++ xs) := by
  obtain ⟨tries, last, rfl, hlength, htries, hlast⟩ := h
  exact ⟨ys :: tries, last, by simp, Nat.succ_lt_succ hlength, List.forall_mem_cons.mpr ⟨hfirst, htries⟩,
    hlast⟩

variable {plan : Retry.Plan Fault} {notify : Retry.Event Fault → ExceptT Fault (StateM S) Unit}
  {op : ExceptT Fault (StateM S) (Except Fault α)} {D : Except Fault α → List Exchange → Prop}
  {repeated : List Exchange → Prop}

lemma emits_runFrom (hnotify : ∀ e, Emits n view asks (fun _ xs => xs = []) (notify e))
    (hop : Emits n view asks D op)
    (hrepeated : ∀ f xs, plan.retryable f = true → D (.error f) xs → repeated xs)
    (left attempt waited : Nat) :
    Emits n view asks (fun result xs => ∀ v, result = .ok v →
      Retried (left + 1) repeated (D (.ok v)) xs) (plan.runFrom notify op left attempt waited) := by
  induction left generalizing attempt waited with
  | zero =>
    rw [Retry.Plan.runFrom]
    refine (hnotify _).bind fun _ xs hxs => hop.bind fun outcome ys hys => ?_
    cases hxs
    cases outcome with
    | ok value =>
      refine (hnotify _).bind fun _ zs hzs => emits_pure ?_
      cases hzs
      rintro v ⟨⟩
      exact ⟨[], ys, by simp, Nat.one_pos, nofun, hys⟩
    | error e =>
      dsimp only
      split
      · exact (hnotify _).bind fun _ _ _ => emits_pure nofun
      · exact (hnotify _).bind fun _ _ _ => emits_pure nofun
  | succ left ih =>
    rw [Retry.Plan.runFrom]
    refine (hnotify _).bind fun _ xs hxs => hop.bind fun outcome ys hys => ?_
    cases hxs
    cases outcome with
    | ok value =>
      refine (hnotify _).bind fun _ zs hzs => emits_pure ?_
      cases hzs
      rintro v ⟨⟩
      exact ⟨[], ys, by simp, Nat.succ_pos _, nofun, hys⟩
    | error e =>
      dsimp only
      split
      · next hretry =>
        refine (hnotify _).bind fun _ zs hzs => (ih _ _).mono (List.Subset.refl _) ?_
        cases hzs
        intro result ws hws v hv
        simpa using (hws v hv).cons (hrepeated e ys hretry hys)
      · exact (hnotify _).bind fun _ _ _ => emits_pure nofun

end Retry

namespace Node

variable {n : Node σ} {asks : List Ask}

lemma emits_noteAttempt (operation : String) (e : Retry.Event Fault) :
    Emits n id asks (fun _ xs => xs = []) (noteAttempt (σ := σ) operation e) := by
  unfold noteAttempt
  split
  · refine (emits_log _ _ _).bind fun _ xs hxs => ?_
    cases hxs
    split
    · exact emits_wait _
    · exact emits_pure rfl
  · exact emits_pure rfl

lemma emits_untilMet {a : NodeM σ α} {D : Except Fault α → List Exchange → Prop}
    {repeated : List Exchange → Prop} (h : Emits n id asks D (settled a))
    (hrepeated : ∀ f xs, f.isConditionNotMet = true → D (.error f) xs → repeated xs)
    (operation : String) (policy : RetryPolicy) :
    Emits n id asks (fun v xs => Retried policy.attemptLimit repeated (D (.ok v)) xs)
      (untilMet operation policy a) := by
  have hlimit : policy.attemptLimit - 1 + 1 = policy.attemptLimit :=
    Nat.sub_add_cancel (Nat.le_max_left 1 _)
  have hruns : Emits n id asks (fun result xs => ∀ v, result = .ok v →
      Retried policy.attemptLimit repeated (D (.ok v)) xs)
      ((Retry.Plan.steady policy Fault.isConditionNotMet).run (noteAttempt operation) (outcome a)) := by
    rw [outcome_eq_settled, ← hlimit]
    exact emits_runFrom (emits_noteAttempt operation) h hrepeated _ _ _
  refine hruns.bind fun result xs hxs => ?_
  cases result with
  | ok value => exact emits_pure (by simpa using hxs value rfl)
  | error failure => exact emits_throw _

end Node

section Unmet

namespace Transport

def ReportsUnmet (way : Transport σ) : Prop :=
  (∃ m f, (way.connect m).1 = .error f ∧ f.isConditionNotMet = true) ∨
    ∃ q m f, (way.run q m).1 = .error f ∧ f.isConditionNotMet = true

def Foreign (way : Transport σ) (f : Fault) : Prop := f.isConditionNotMet = true → way.ReportsUnmet

end Transport

variable {n : Node σ}

lemma Shell.foreign_quote {way : Transport σ} {value : String} {f : Fault}
    (h : Shell.quote value = .error f) : way.Foreign f := by
  unfold Shell.quote at h
  split at h
  · cases h
  · cases h
    exact nofun

lemma Environment.checked_cons (entry : String × String) (rest : Environment) :
    Environment.checked (entry :: rest) =
      (Shell.envName entry.1).bind fun _ => (Environment.checked rest).map (entry :: ·) := by
  simp only [Environment.checked, List.forIn_cons]
  cases Shell.envName entry.1 with
  | error f => rfl
  | ok name =>
    simp only [bind, Except.bind, pure, Except.pure]
    split
    · next hrest => rw [hrest]; rfl
    · next hrest => rw [hrest]; rfl

lemma Environment.foreign_checked {way : Transport σ} {env : Environment} {f : Fault}
    (h : env.checked = .error f) : way.Foreign f := by
  induction env with
  | nil => cases h
  | cons entry rest ih =>
    rw [checked_cons] at h
    cases hname : Shell.envName entry.1 with
    | error e =>
      rw [hname] at h
      cases h
      unfold Shell.envName at hname
      split at hname
      · cases hname
      · cases hname
        exact nofun
    | ok name =>
      rw [hname] at h
      cases hrest : Environment.checked rest with
      | error e =>
        rw [hrest] at h
        cases h
        exact ih hrest
      | ok env =>
        rw [hrest] at h
        cases h

namespace Node

lemma faults_connect : Faults n.transport.Foreign n.connect := by
  intro s f hf hunmet
  cases hd : s.connection.done with
  | true =>
    rw [n.connect_of_connected hd] at hf
    cases hf
  | false =>
    rw [n.connect_of_not_connected hd] at hf
    exact .inl ⟨s.machine, f, hf, hunmet⟩

lemma faults_run (q : CommandRequest) : Faults n.transport.Foreign (n.run q) :=
  fun s f hf hunmet => .inr ⟨q, s.machine, f, hf, hunmet⟩

lemma faults_supportsSudo : Faults n.transport.Foreign n.supportsSudo := by
  refine faults_get.bind fun s => ?_
  cases s.sudoSupported with
  | some supported => exact faults_pure supported
  | none =>
    exact faults_connect.bind fun _ => (faults_run _).bind fun _ => (faults_modify _).bind fun _ =>
      faults_pure _

lemma faults_prepare (command : String) (opts : ExecOptions) :
    Faults n.transport.Foreign (n.prepare command opts) := by
  unfold prepare
  split
  · exact faults_pure _
  · refine faults_supportsSudo.bind fun supported => ?_
    split
    · exact faults_throw nofun
    · split
      · exact (faults_liftM fun _ => Shell.foreign_quote).bind fun _ => faults_pure _
      · exact faults_pure _

lemma faults_request (command : String) (opts : ExecOptions) :
    Faults n.transport.Foreign (n.request command opts) := by
  refine faults_connect.bind fun _ => (faults_prepare command opts).bind fun line => ?_
  refine faults_get.bind fun s => (faults_liftM fun _ => Environment.foreign_checked).bind fun env => ?_
  exact faults_get.bind fun s => faults_pure _

lemma foreign_verdict {opts : ExecOptions} {result : ExecutionResult} {f : Fault}
    (h : verdict opts result = .error f) : n.transport.Foreign f := by
  unfold verdict at h
  split at h
  · unfold ExecutionResult.requireCode at h
    split at h
    · cases h
    · cases h
      exact nofun
  · cases h

lemma faults_execute (command : String) (opts : ExecOptions) :
    Faults n.transport.Foreign (n.execute command opts) := by
  rw [execute_eq]
  refine (faults_request command opts).bind fun q s f hf hunmet => ?_
  obtain ⟨logs, hsend⟩ := n.send_apply opts q s
  rw [hsend] at hf
  rcases hrun : (n.transport.run q s.machine).1 with e | output
  · rw [hrun] at hf
    cases hf
    exact .inr ⟨q, s.machine, f, hrun, hunmet⟩
  · rw [hrun] at hf
    exact foreign_verdict hf hunmet

lemma faults_executeCached (command : String) (opts : ExecOptions) :
    Faults n.transport.Foreign (n.executeCached command opts) := by
  refine faults_get.bind fun s => (faults_liftM fun _ => Environment.foreign_checked).bind fun env => ?_
  dsimp only
  split
  · exact faults_pure _
  · exact (faults_execute command opts).bind fun _ => (faults_modify _).bind fun _ => faults_pure _

end Node

end Unmet

end HostProbe
