import HostProbe.Proofs.Node.Outcome
import HostProbe.Proofs.Node.Recall

/-! What a node finds out about its machine, over runs of calls. Whether there is sudo, the system and the
package manager are asked for until there is an answer, and the answer stays. Without sudo no command is
sent that needs it. -/

namespace HostProbe

open NodeM

variable {σ α : Type}

section Deeds

inductive Deed where
  | probe (x : Exchange)
  | command (root : Bool) (x : Exchange)

namespace Deed

def exchange : Deed → Exchange
  | .probe x => x
  | .command _ x => x

def answer? : Deed → Option Bool
  | .probe x => x.answer.toOption.map (·.exitCode == 0)
  | .command _ _ => none

end Deed

inductive Learns : Option Bool → List Deed → Option Bool → Prop where
  | nil {known : Option Bool} : Learns known [] known
  | probe {x : Exchange} {deeds : List Deed} {known : Option Bool}
      (h : Learns (Deed.probe x).answer? deeds known) : Learns none (.probe x :: deeds) known
  | command {root : Bool} {x : Exchange} {deeds : List Deed} {before known : Option Bool}
      (hroot : root = true → before = some true) (h : Learns before deeds known) :
      Learns before (.command root x :: deeds) known

variable {a b c : Option Bool} {ds es : List Deed} {x : Exchange} {xs : List Exchange}

lemma Learns.append (h : Learns a ds b) (h' : Learns b es c) : Learns a (ds ++ es) c := by
  induction h with
  | nil => exact h'
  | probe _ ih => exact .probe (ih h')
  | command hroot _ ih => exact .command hroot (ih h')

lemma learns_unanswered (h : ∀ x ∈ xs, x.answer.toOption = none) :
    Learns none (xs.map .probe) none := by
  induction xs with
  | nil => exact .nil
  | cons x xs ih =>
    obtain ⟨hx, hxs⟩ := List.forall_mem_cons.mp h
    have hnone : (Deed.probe x).answer? = none := by rw [Deed.answer?, hx, Option.map_none]
    refine .probe ?_
    rw [hnone]
    exact ih hxs

lemma Learns.answers (h : Learns a ds b) : a.toList ++ ds.filterMap Deed.answer? = b.toList := by
  induction h with
  | nil => simp
  | @probe x deeds known _ ih =>
    rw [← ih, List.filterMap_cons]
    cases (Deed.probe x).answer? with
    | none => rfl
    | some supported => rfl
  | command hroot _ ih => rwa [List.filterMap_cons_none rfl]

lemma Learns.stays {supported : Bool} (h : Learns (some supported) ds b) : b = some supported := by
  have hanswers := h.answers
  cases b with
  | none => cases hanswers
  | some known => exact congrArg some (List.cons.inj hanswers).1.symm

lemma Learns.backed (h : Learns a ds b) {earlier later : List Deed}
    (hsplit : ds = earlier ++ .command true x :: later) :
    a.toList ++ earlier.filterMap Deed.answer? = [true] := by
  induction h generalizing earlier with
  | nil => simp at hsplit
  | @probe y deeds known _ ih =>
    cases earlier with
    | nil => cases hsplit
    | cons d earlier =>
      obtain ⟨rfl, hdeeds⟩ := List.cons.inj hsplit
      rw [← ih hdeeds, List.filterMap_cons]
      cases (Deed.probe y).answer? with
      | none => rfl
      | some supported => rfl
  | @command root y deeds before known hroot _ ih =>
    cases earlier with
    | nil =>
      obtain ⟨hhead, -⟩ := List.cons.inj hsplit
      cases hhead
      simp [hroot rfl]
    | cons d earlier =>
      obtain ⟨rfl, hdeeds⟩ := List.cons.inj hsplit
      rw [List.filterMap_cons_none rfl]
      exact ih hdeeds

end Deeds

namespace Node

variable {n : Node σ} {s t u : NodeState σ} {command : String} {opts : ExecOptions} {c : Call}

section Sudo

inductive Asked (n : Node σ) (s : NodeState σ) : Except Fault Bool × NodeState σ → Prop where
  | known {supported : Bool} (hknown : s.sudoSupported = some supported) : Asked n s (.ok supported, s)
  | unanswered {f : Fault} {t : NodeState σ} {xs : List Exchange} (hunknown : s.sudoSupported = none)
      (hleads : n.Leads s t xs) (hxs : ∀ x ∈ xs, x.answer.toOption = none)
      (hstill : t.sudoSupported = none) : Asked n s (.error f, t)
  | answered {x : Exchange} {supported : Bool} {t : NodeState σ} (hunknown : s.sudoSupported = none)
      (hleads : n.Leads s t [x]) (hanswer : (Deed.probe x).answer? = some supported)
      (hfound : t.sudoSupported = some supported) : Asked n s (.ok supported, t)

lemma sudoSupported_connect (s : NodeState σ) : (n.connect s).2.sudoSupported = s.sudoSupported := by
  cases hd : s.connection.done with
  | true => rw [n.connect_of_connected hd]
  | false => rw [n.connect_of_not_connected hd]

lemma supportsSudo_cases (s : NodeState σ) : n.Asked s (n.supportsSudo s) := by
  cases hknown : s.sudoSupported with
  | some supported =>
    rw [supportsSudo_of_known hknown]
    exact .known hknown
  | none =>
    have hleads := leads_connect (n := n) s
    have hstill := (sudoSupported_connect (n := n) s).trans hknown
    rw [supportsSudo, bind_of_ok (get_apply s), hknown]
    dsimp only
    rcases hconnect : n.connect s with ⟨f | _, t⟩
    · rw [hconnect] at hleads hstill
      rw [bind_of_error hconnect]
      exact .unanswered hknown hleads (by simp) hstill
    · rw [hconnect] at hleads hstill
      rw [bind_of_ok hconnect, bind_apply, run_apply]
      let q : CommandRequest := ⟨"command -v sudo", true, none, [], n.timeoutMs⟩
      have hasked : ∀ a u, (n.transport.run q t.machine).1 = a → u.contacts = t.contacts ++ [.run q] →
          u.machine = (n.transport.run q t.machine).2 → n.Leads s u [⟨q, a⟩] := by
        rintro a u rfl hcontacts hmachine
        exact hleads.trans ⟨[.run q], hcontacts, hmachine, rfl⟩
      rcases hrun : (n.transport.run q t.machine).1 with f | output
      · refine .unanswered hknown (hasked (.error f) _ hrun rfl rfl) ?_ hstill
        exact List.forall_mem_singleton.mpr rfl
      · exact .answered hknown (hasked (.ok output) _ hrun rfl rfl) rfl rfl

def Probes (n : Node σ) (s t : NodeState σ) : Prop :=
  ∃ xs, n.Leads s t xs ∧ Learns s.sudoSupported (xs.map .probe) t.sudoSupported

lemma probes_of_leads (h : n.Leads s t []) (hknown : t.sudoSupported = s.sudoSupported) : n.Probes s t := by
  refine ⟨[], h, ?_⟩
  rw [hknown]
  exact .nil

instance : IsPreorder (NodeState σ) n.Probes where
  refl _ := probes_of_leads (leads_of_eq rfl rfl) rfl
  trans _ _ _ := by
    rintro ⟨xs, hleads, hlearns⟩ ⟨ys, hleads', hlearns'⟩
    refine ⟨xs ++ ys, hleads.trans hleads', ?_⟩
    rw [List.map_append]
    exact hlearns.append hlearns'

lemma probes_connect : Within n.Probes n.connect :=
  fun s => probes_of_leads (leads_connect s) (sudoSupported_connect s)

lemma probes_close : Within n.Probes n.close := by
  refine fun s => probes_of_leads (leads_close s) ?_
  cases hd : s.connection.done with
  | true => rw [n.close_of_connected hd]
  | false => rw [n.close_of_not_connected hd]

lemma probes_supportsSudo : Within n.Probes n.supportsSudo := by
  intro s
  have hcases := supportsSudo_cases (n := n) s
  generalize n.supportsSudo s = out at hcases ⊢
  cases hcases with
  | known _ => exact refl s
  | unanswered hunknown hleads hxs hstill =>
    refine ⟨_, hleads, ?_⟩
    rw [hunknown, hstill]
    exact learns_unanswered hxs
  | answered hunknown hleads hanswer hfound =>
    refine ⟨_, hleads, ?_⟩
    rw [hunknown, hfound, ← hanswer]
    exact .probe .nil

lemma probes_request (command : String) (opts : ExecOptions) : Within n.Probes (n.request command opts) :=
  within_request probes_supportsSudo command opts probes_connect

lemma learns_execute (command : String) (opts : ExecOptions) (s : NodeState σ) :
    ∃ asked sent, n.Leads s (n.request command opts s).2 asked ∧
      n.Leads s (n.execute command opts s).2 (asked ++ sent) ∧
      Learns s.sudoSupported (asked.map .probe ++ sent.map (.command (n.usesSudo opts)))
        (n.execute command opts s).2.sudoSupported := by
  obtain ⟨asked, hleads, hlearns⟩ := probes_request (n := n) command opts s
  rcases hrequest : n.request command opts s with ⟨f | q, t⟩
  · rw [hrequest] at hleads hlearns
    rw [execute_eq, bind_of_error hrequest]
    exact ⟨asked, [], hleads, by simpa using hleads, by simpa using hlearns⟩
  · rw [hrequest] at hleads hlearns
    obtain ⟨logs, hsend⟩ := n.send_apply opts q t
    have hsent := leads_send (n := n) opts q t
    rw [hsend] at hsent
    rw [execute_eq, bind_of_ok hrequest, hsend]
    exact ⟨asked, _, hleads, hleads.trans hsent,
      hlearns.append (.command (sudoSupported_of_request hrequest) .nil)⟩

lemma execute_without_sudo (h : s.sudoSupported = some false) (hroot : n.usesSudo opts = true) :
    n.execute command opts s = ((n.connect s).1.bind fun _ => .error (.missingCapability "sudo" n.name
      ("cannot execute `" ++ command ++ "` with sudo")), (n.connect s).2) := by
  rw [execute_eq]
  rcases hconnect : n.connect s with ⟨f | _, t⟩
  · have hrequest : n.request command opts s = (.error f, t) := bind_of_error hconnect _
    exact bind_of_error hrequest _
  · have hknown : t.sudoSupported = some false := (connect_ok hconnect).2.1.trans h
    have hprepare : n.prepare command opts t = (.error (.missingCapability "sudo" n.name
        ("cannot execute `" ++ command ++ "` with sudo")), t) := by
      rw [prepare, hroot]
      exact bind_of_ok (supportsSudo_of_known hknown) _
    have hrequest : n.request command opts s = _ :=
      (bind_of_ok hconnect _).trans (bind_of_error hprepare _)
    exact bind_of_error hrequest _

end Sudo

section Calls

variable (n)

def command? (s : NodeState σ) : Call → Option (String × ExecOptions)
  | .execute command opts => some (command, opts)
  | .executeCached command opts => some (command, opts)
  | .pathExists path =>
    (Shell.quote path).toOption.map fun arg => ("test -e " ++ arg, ExecOptions.quiet { shell := true })
  | .os => if s.os = none then some ("cat /etc/os-release", systemOptions) else none
  | .packageManager =>
    if s.packages = none ∧ s.os = none then some ("cat /etc/os-release", systemOptions) else none
  | _ => none

def checked (s : NodeState σ) : Call → Except Fault Unit
  | .executeCached _ opts => (mergedEnv opts s).map fun _ => ()
  | _ => .ok ()

inductive Ended (s : NodeState σ) (command : String) (opts : ExecOptions) (c : Call) :
    Except Fault Unit × NodeState σ → Prop where
  | refused {f : Fault} (hchecked : checked s c = .error f) : Ended s command opts c (.error f, s)
  | served {env : Environment} {result : ExecutionResult} (hc : c = .executeCached command opts)
      (hrecalled : n.recalled command opts s env = some result) : Ended s command opts c (.ok (), s)
  | failed {f : Fault} {t : NodeState σ} (hchecked : checked s c = .ok ())
      (hrun : n.execute command opts s = (.error f, t)) : Ended s command opts c (.error f, t)
  | ran {result : ExecutionResult} {t u : NodeState σ} {out : Except Fault Unit}
      (hrun : n.execute command opts s = (.ok result, t)) (hsame : n.Leads t u [])
      (hknown : u.sudoSupported = t.sudoSupported) : Ended s command opts c (out, u)

variable {n}

lemma discard_apply (a : NodeM σ α) (s : NodeState σ) :
    (do let _ ← a : NodeM σ Unit) s = ((a s).1.map fun _ => (), (a s).2) := by
  rw [bind_apply]
  rcases a s with ⟨_ | _, _⟩ <;> rfl

lemma ended_executeCached (s : NodeState σ) :
    n.Ended s command opts (.executeCached command opts) (n.act (.executeCached command opts) s) := by
  rw [act, discard_apply]
  have hcases := n.executeCached_cases command opts s
  generalize n.executeCached command opts s = out at hcases ⊢
  cases hcases with
  | refused hmerged => exact .refused (by rw [checked, hmerged]; rfl)
  | served hmerged hrecalled => exact .served rfl hrecalled
  | failed hmerged hnew hrun => exact .failed (by rw [checked, hmerged]; rfl) hrun
  | ran hmerged hnew hrun => exact .ran hrun (leads_of_eq rfl rfl) rfl

lemma ended_of_command? (h : command? s c = some (command, opts)) :
    n.Ended s command opts c (n.act c s) := by
  cases c with
  | execute _ _ =>
    cases h
    rw [act, discard_apply]
    rcases hrun : n.execute command opts s with ⟨f | r, t⟩
    · exact .failed rfl hrun
    · exact .ran hrun (leads_of_eq rfl rfl) rfl
  | executeCached _ _ =>
    cases h
    exact ended_executeCached s
  | pathExists path =>
    rw [act, discard_apply, pathExists]
    cases hquote : Shell.quote path with
    | error f =>
      rw [command?, hquote] at h
      cases h
    | ok arg =>
      rw [command?, hquote] at h
      cases h
      rw [bind_of_ok (liftM_apply _ s)]
      rcases hrun : n.execute ("test -e " ++ arg) (ExecOptions.quiet { shell := true }) s with ⟨f | r, t⟩
      · rw [bind_of_error hrun]
        exact .failed rfl hrun
      · rw [bind_of_ok hrun]
        exact .ran hrun (leads_of_eq rfl rfl) rfl
  | os =>
    obtain ⟨hunknown, heq⟩ := Option.ite_none_right_eq_some.mp h
    cases heq
    rw [act, discard_apply]
    have hcases := os_cases (n := n) s
    generalize n.os s = out at hcases ⊢
    cases hcases with
    | known hknown => cases hunknown.symm.trans hknown
    | failed _ hrun => exact .failed rfl hrun
    | found _ hrun => exact .ran hrun (leads_of_eq rfl rfl) rfl
  | packageManager =>
    obtain ⟨⟨hpackages, hunknown⟩, heq⟩ := Option.ite_none_right_eq_some.mp h
    cases heq
    rw [act, discard_apply, packageManager_of_unknown hpackages]
    have hcases := os_cases (n := n) s
    generalize n.os s = out at hcases ⊢
    cases hcases with
    | known hknown => cases hunknown.symm.trans hknown
    | failed _ hrun => exact .failed rfl hrun
    | @found r t logs _ hrun =>
      dsimp only
      cases PackageKind.ofOs (systemOf r) with
      | error f => exact .ran hrun (leads_of_eq rfl rfl) rfl
      | ok kind => exact .ran hrun (leads_of_eq rfl rfl) rfl
  | connect => cases h
  | close => cases h
  | supportsSudo => cases h
  | setWorkingDir _ => cases h
  | updateEnv _ _ => cases h

lemma probes_of_no_command (h : command? s c = none) : n.Probes s (n.act c s).2 := by
  cases c with
  | execute _ _ => cases h
  | executeCached _ _ => cases h
  | connect => exact probes_connect s
  | close => exact probes_close s
  | setWorkingDir dir => exact probes_of_leads (leads_of_eq rfl rfl) rfl
  | updateEnv name value => exact probes_of_leads (leads_of_eq rfl rfl) rfl
  | supportsSudo =>
    rw [act, discard_apply]
    exact probes_supportsSudo s
  | pathExists path =>
    cases hquote : Shell.quote path with
    | error f =>
      rw [act, discard_apply, pathExists, hquote]
      exact refl s
    | ok arg =>
      rw [command?, hquote] at h
      cases h
  | os =>
    cases hos : s.os with
    | none => simp [command?, hos] at h
    | some os =>
      rw [act, discard_apply, os_of_known hos]
      exact refl s
  | packageManager =>
    rw [act, discard_apply]
    cases hpackages : s.packages with
    | some p =>
      rw [packageManager_of_known hpackages]
      exact refl s
    | none =>
      cases hos : s.os with
      | none => simp [command?, hpackages, hos] at h
      | some os =>
        rw [packageManager_of_unknown hpackages, os_of_known hos]
        dsimp only
        cases PackageKind.ofOs os with
        | error f => exact refl s
        | ok kind => exact probes_of_leads (leads_of_eq rfl rfl) rfl

end Calls

section History

variable (n)

/-- What is sent for a call; the last of a command's exchanges is itself, and the others are asked first. -/
def deeds (s : NodeState σ) (c : Call) : List Deed :=
  let xs := n.exchanges s (n.after s c)
  match command? s c with
  | none => xs.map .probe
  | some (command, opts) =>
    let asked := (n.exchanges s (n.request command opts s).2).length
    (xs.take asked).map .probe ++ (xs.drop asked).map (.command (opts.asRoot || n.alwaysSudo))

def history : NodeState σ → List Call → List Deed
  | _, [] => []
  | s, c :: rest => n.deeds s c ++ history (n.after s c) rest

variable {n}

lemma Ended.sent {out : Except Fault Unit × NodeState σ} (h : n.Ended s command opts c out) :
    (n.Leads s out.2 [] ∧ out.2.sudoSupported = s.sudoSupported) ∨
      n.Leads (n.execute command opts s).2 out.2 [] ∧
        out.2.sudoSupported = (n.execute command opts s).2.sudoSupported := by
  cases h with
  | refused _ => exact .inl ⟨leads_of_eq rfl rfl, rfl⟩
  | served _ _ => exact .inl ⟨leads_of_eq rfl rfl, rfl⟩
  | failed _ hrun =>
    rw [hrun]
    exact .inr ⟨leads_of_eq rfl rfl, rfl⟩
  | ran hrun hsame hknown =>
    rw [hrun]
    exact .inr ⟨hsame, hknown⟩

lemma learns_deeds (s : NodeState σ) (c : Call) :
    n.Leads s (n.after s c) ((n.deeds s c).map Deed.exchange) ∧
      Learns s.sudoSupported (n.deeds s c) (n.after s c).sudoSupported := by
  have hexchange (f : Exchange → Deed) (hf : ∀ x, (f x).exchange = x) (xs : List Exchange) :
      (xs.map f).map Deed.exchange = xs := by
    rw [List.map_map, funext hf (f := Deed.exchange ∘ f) (g := id), List.map_id]
  unfold deeds
  cases hcommand : command? s c with
  | none =>
    obtain ⟨xs, hleads, hlearns⟩ : n.Probes s (n.after s c) := probes_of_no_command hcommand
    dsimp only
    rw [hleads.exchanges_eq, hexchange _ fun _ => rfl]
    exact ⟨hleads, hlearns⟩
  | some p =>
    obtain ⟨command, opts⟩ := p
    obtain ⟨asked, sent, hasked, hall, hlearns⟩ := learns_execute (n := n) command opts s
    have hended : n.Ended s command opts c (n.act c s) := ended_of_command? hcommand
    have hsent := hended.sent
    change (n.Leads s (n.after s c) [] ∧ (n.after s c).sudoSupported = _) ∨
      n.Leads _ (n.after s c) [] ∧ (n.after s c).sudoSupported = _ at hsent
    dsimp only
    rw [hasked.exchanges_eq]
    obtain ⟨hleads, hknown⟩ | ⟨hleads, hknown⟩ := hsent
    · rw [hleads.exchanges_eq, hknown, List.take_nil, List.drop_nil]
      exact ⟨hleads, .nil⟩
    · have hsent : n.Leads s (n.after s c) (asked ++ sent) := by simpa using hall.trans hleads
      rw [hsent.exchanges_eq, hknown, List.take_left, List.drop_left, List.map_append,
        hexchange _ fun _ => rfl, hexchange _ fun _ => rfl]
      exact ⟨hsent, hlearns⟩

lemma learns_history (s : NodeState σ) (calls : List Call) :
    n.Leads s (n.afterAll s calls) ((n.history s calls).map Deed.exchange) ∧
      Learns s.sudoSupported (n.history s calls) (n.afterAll s calls).sudoSupported := by
  induction calls generalizing s with
  | nil => exact ⟨leads_of_eq rfl rfl, .nil⟩
  | cons c rest ih =>
    obtain ⟨hleads, hlearns⟩ := learns_deeds (n := n) s c
    obtain ⟨hleads', hlearns'⟩ := ih (n.after s c)
    rw [history, List.map_append]
    exact ⟨hleads.trans hleads', hlearns.append hlearns'⟩

lemma knows_sudo_after {supported : Bool} (h : s.sudoSupported = some supported) (c : Call) :
    (n.after s c).sudoSupported = some supported := by
  have hlearns := (learns_deeds (n := n) s c).2
  rw [h] at hlearns
  exact hlearns.stays

end History

section Refusal

def Backed (n : Node σ) (s : NodeState σ) : Prop :=
  ∀ command opts env t r, n.usesSudo opts = true →
    s.results.lookup (n.resultKey command opts env t) = some r → s.sudoSupported = some true

lemma Backed.of_same (h : n.Backed s) (hresults : t.results = s.results)
    (hknown : s.sudoSupported = some true → t.sudoSupported = some true) : n.Backed t := by
  intro command opts env u r hroot hstored
  rw [hresults] at hstored
  exact hknown (h command opts env u r hroot hstored)

lemma backed_after (h : n.Backed s) (c : Call) : n.Backed (n.after s c) := by
  have hknown : s.sudoSupported = some true → (n.after s c).sudoSupported = some true :=
    fun hs => knows_sudo_after hs c
  by_cases hclose : c = .close
  · subst hclose
    cases hd : s.connection.done with
    | true =>
      have hafter := congrArg Prod.snd (n.close_of_connected hd)
      intro command opts env t r hroot hstored
      rw [after, act, hafter] at hstored
      cases hstored
    | false => exact h.of_same (congrArg (·.2.results) (n.close_of_not_connected hd)) hknown
  · by_cases hcached : ∃ command opts, c = .executeCached command opts
    · obtain ⟨command, opts, rfl⟩ := hcached
      rw [after_executeCached] at hknown ⊢
      have hcases := n.executeCached_cases command opts s
      generalize n.executeCached command opts s = out at hcases hknown ⊢
      cases hcases with
      | refused hmerged => exact h
      | served hmerged hrecalled => exact h
      | failed hmerged hnew hrun => exact h.of_same (results_execute hrun) hknown
      | @ran env result t hmerged hnew hrun =>
        intro command' opts' env' u r hroot hstored
        by_cases hkey : n.resultKey command' opts' env' u = n.resultKey command opts env s
        · have hsame : n.usesSudo opts' = n.usesSudo opts := (n.resultKey_inj.mp hkey).1
          have hfound : t.sudoSupported = some true := sudoSupported_of_execute hrun (hsame.symm.trans hroot)
          exact hfound
        · rw [lookup_store_of_ne hkey, results_execute hrun] at hstored
          exact hknown (h command' opts' env' u r hroot hstored)
    · exact h.of_same (results_after hclose fun command opts hc => hcached ⟨command, opts, hc⟩) hknown

lemma backed_afterAll (h : n.Backed s) (calls : List Call) : n.Backed (n.afterAll s calls) :=
  n.afterAll_of_after (R := Saves n.Backed) (fun _ c h => backed_after h c) s calls h

lemma act_without_sudo (hbacked : n.Backed s) (h : s.sudoSupported = some false)
    (hcommand : command? s c = some (command, opts)) (hroot : n.usesSudo opts = true) :
    n.exchanges s (n.after s c) = [] ∧
      (n.act c s).1 = (checked s c).bind fun _ => (n.connect s).1.bind fun _ =>
        .error (.missingCapability "sudo" n.name ("cannot execute `" ++ command ++ "` with sudo")) := by
  have hexecute : n.execute command opts s = _ := execute_without_sudo h hroot
  have hconnect := leads_connect (n := n) s
  have hended : n.Ended s command opts c (n.act c s) := ended_of_command? hcommand
  unfold after
  generalize n.act c s = out at hended ⊢
  cases hended with
  | refused hchecked =>
    rw [hchecked]
    exact ⟨(leads_of_eq rfl rfl).exchanges_eq, rfl⟩
  | @served env r hc hrecalled =>
    -- A stored result of the command would be one with sudo.
    have hstored : s.results.lookup (n.resultKey command opts env s) = some r := by
      unfold recalled at hrecalled
      split at hrecalled
      · cases hrecalled
      · exact hrecalled
    cases h.symm.trans (hbacked command opts env s r hroot hstored)
  | failed hchecked hrun =>
    obtain ⟨hout, rfl⟩ := Prod.mk.inj (hexecute.symm.trans hrun)
    refine ⟨hconnect.exchanges_eq, ?_⟩
    rw [hchecked]
    rcases hok : (n.connect s).1 with f | _
    · rw [hok] at hout
      cases hout
      rfl
    · rw [hok] at hout
      cases hout
      rfl
  | ran hrun _ _ =>
    have hout := congrArg Prod.fst (hexecute.symm.trans hrun)
    rcases hok : (n.connect s).1 with f | _
    · rw [hok] at hout
      cases hout
    · rw [hok] at hout
      cases hout

end Refusal

section Facts

def Matched (s : NodeState σ) : Prop :=
  ∀ kind view, s.packages = some (kind, view) → ∃ os, s.os = some os ∧ PackageKind.ofOs os = .ok kind

structure Firm (s t : NodeState σ) : Prop where
  os : ∀ os, s.os = some os → t.os = some os
  packages : ∀ p, s.packages = some p → t.packages = some p
  matched : Matched s → Matched t

instance : IsPreorder (NodeState σ) Firm where
  refl _ := ⟨fun _ h => h, fun _ h => h, fun h => h⟩
  trans _ _ _ h h' := ⟨fun os hos => h'.os os (h.os os hos), fun p hp => h'.packages p (h.packages p hp),
    fun hs => h'.matched (h.matched hs)⟩

lemma SameFacts.firm (h : SameFacts s t) : Firm s t where
  os os hos := h.os.trans hos
  packages p hp := h.manager.trans hp
  matched hs kind view hkind := by
    rw [h.os]
    exact hs kind view (h.manager.symm.trans hkind)

lemma firm_execute (command : String) (opts : ExecOptions) : Within Firm (n.execute command opts) :=
  (sameFacts_execute command opts).mono fun _ _ h => h.firm

lemma firm_executeCached (command : String) (opts : ExecOptions) :
    Within Firm (n.executeCached command opts) := by
  intro s
  have hexecute := firm_execute (n := n) command opts s
  have hcases := n.executeCached_cases command opts s
  generalize n.executeCached command opts s = out at hcases ⊢
  cases hcases with
  | refused _ => exact refl s
  | served _ _ => exact refl s
  | failed _ _ hrun => exact hrun ▸ hexecute
  | @ran env result t hmerged _ hrun =>
    have hsame : SameFacts t (store (n.resultKey command opts env s) result t).2 := ⟨rfl, rfl⟩
    rw [hrun] at hexecute
    exact IsTrans.trans _ _ _ hexecute hsame.firm

lemma packages_os (s : NodeState σ) : (n.os s).2.packages = s.packages := by
  have hsame := (sameFacts_execute (n := n) "cat /etc/os-release" systemOptions s).manager
  have hcases := os_cases (n := n) s
  generalize n.os s = out at hcases ⊢
  cases hcases with
  | known _ => rfl
  | failed _ hrun =>
    rw [hrun] at hsame
    exact hsame
  | found _ hrun =>
    rw [hrun] at hsame
    exact hsame

lemma os_eq_ok {os : Os} (h : n.os s = (.ok os, t)) : t.os = some os := by
  cases h ▸ os_cases (n := n) s with
  | known hknown => exact hknown
  | found _ _ => rfl

lemma os_eq_error {f : Fault} (h : n.os s = (.error f, t)) : t.os = none := by
  have hsame := (sameFacts_execute (n := n) "cat /etc/os-release" systemOptions s).os
  cases h ▸ os_cases (n := n) s with
  | failed hunknown hrun =>
    rw [hrun] at hsame
    exact hsame.trans hunknown

lemma firm_os : Within Firm n.os := by
  intro s
  cases hos : s.os with
  | some os =>
    rw [os_of_known hos]
    exact refl s
  | none =>
    have hpackages := packages_os (n := n) s
    refine ⟨fun os h => (nomatch hos.symm.trans h), fun p hp => hpackages.trans hp, ?_⟩
    -- Without a system there is no package manager yet.
    intro hmatched kind view hkind
    obtain ⟨os, hknown, -⟩ := hmatched kind view (hpackages.symm.trans hkind)
    cases hos.symm.trans hknown

inductive Chosen (n : Node σ) (s : NodeState σ) : Except Fault PackageKind × NodeState σ → Prop where
  | known {kind : PackageKind} {view : Once} (hknown : s.packages = some (kind, view)) :
      Chosen n s (.ok kind, s)
  | failed {f : Fault} {t : NodeState σ} (hunknown : s.packages = none) (hfirm : Firm s t)
      (hstill : t.packages = none) : Chosen n s (.error f, t)
  | chosen {os : Os} {kind : PackageKind} {t : NodeState σ} (hunknown : s.packages = none) (hfirm : Firm s t)
      (hos : t.os = some os) (hkind : PackageKind.ofOs os = .ok kind) :
      Chosen n s (.ok kind, { t with packages := some (kind, .fresh) })

lemma chosen_packageManager (s : NodeState σ) : n.Chosen s (n.packageManager s) := by
  cases hpackages : s.packages with
  | some p =>
    rw [packageManager_of_known hpackages]
    exact .known hpackages
  | none =>
    have hfirm := firm_os (n := n) s
    have hsame := (packages_os (n := n) s).trans hpackages
    rw [packageManager_of_unknown hpackages]
    rcases hos : n.os s with ⟨f | os, t⟩
    · rw [hos] at hfirm hsame
      exact .failed hpackages hfirm hsame
    · rw [hos] at hfirm hsame
      dsimp only
      cases hkind : PackageKind.ofOs os with
      | error f => exact .failed hpackages hfirm hsame
      | ok kind => exact .chosen hpackages hfirm (os_eq_ok hos) hkind

lemma firm_packageManager : Within Firm n.packageManager := by
  intro s
  have hchosen := chosen_packageManager (n := n) s
  generalize n.packageManager s = out at hchosen ⊢
  cases hchosen with
  | known _ => exact refl s
  | failed _ hfirm _ => exact hfirm
  | @chosen os kind t hunknown hfirm hos hkind =>
    refine ⟨hfirm.os, fun p hp => (nomatch hunknown.symm.trans hp), fun _ kind' view hp => ?_⟩
    cases hp
    exact ⟨os, hos, hkind⟩

lemma firm_after (s : NodeState σ) (c : Call) : Firm s (n.after s c) := by
  cases c with
  | connect => exact (sameFacts_connect s).firm
  | close => exact (sameFacts_close s).firm
  | setWorkingDir dir => exact SameFacts.firm ⟨rfl, rfl⟩
  | updateEnv name value => exact SameFacts.firm ⟨rfl, rfl⟩
  | execute command opts =>
    rw [after, act, discard_apply]
    exact firm_execute command opts s
  | executeCached command opts =>
    rw [after, act, discard_apply]
    exact firm_executeCached command opts s
  | pathExists path =>
    have hfirm : Within Firm (n.pathExists path) :=
      (within_liftM _).bind fun _ => (firm_execute _ _).bind fun _ => within_pure _
    rw [after, act, discard_apply]
    exact hfirm s
  | os =>
    rw [after, act, discard_apply]
    exact firm_os s
  | packageManager =>
    rw [after, act, discard_apply]
    exact firm_packageManager s
  | supportsSudo =>
    rw [after, act, discard_apply]
    exact (sameFacts_supportsSudo s).firm

lemma firm_afterAll (s : NodeState σ) (calls : List Call) : Firm s (n.afterAll s calls) :=
  n.afterAll_of_after firm_after s calls

end Facts

section Settles

structure Settles (n : Node σ) (ask : NodeM σ α) (known : NodeState σ → Option α) : Prop where
  told : ∀ s v, known s = some v → ask s = (.ok v, s)
  found : ∀ s v, (ask s).1 = .ok v → known (ask s).2 = some v
  failed : ∀ s f, (ask s).1 = .error f → known (ask s).2 = none
  stays : ∀ s v, known s = some v → ∀ calls, known (n.afterAll s calls) = some v

lemma settles_supportsSudo (n : Node σ) : n.Settles n.supportsSudo (·.sudoSupported) where
  told _ _ h := supportsSudo_of_known h
  found s v h := by
    have hcases := supportsSudo_cases (n := n) s
    generalize n.supportsSudo s = out at h hcases ⊢
    cases hcases with
    | known hknown => exact hknown.trans (congrArg some (Except.ok.inj h))
    | unanswered _ _ _ _ => cases h
    | answered _ _ _ hfound => exact hfound.trans (congrArg some (Except.ok.inj h))
  failed s f h := by
    have hcases := supportsSudo_cases (n := n) s
    generalize n.supportsSudo s = out at h hcases ⊢
    cases hcases with
    | known _ => cases h
    | unanswered _ _ _ hstill => exact hstill
    | answered _ _ _ _ => cases h
  stays s v h calls := by
    have hlearns := (learns_history (n := n) s calls).2
    rw [h] at hlearns
    exact hlearns.stays

lemma settles_os (n : Node σ) : n.Settles n.os (·.os) where
  told _ _ h := os_of_known h
  found _ _ h := os_eq_ok (Prod.ext h rfl)
  failed _ _ h := os_eq_error (Prod.ext h rfl)
  stays s v h calls := (firm_afterAll s calls).os v h

lemma settles_packageManager (n : Node σ) :
    n.Settles n.packageManager fun s => s.packages.map Prod.fst where
  told s kind h := by
    obtain ⟨⟨_, view⟩, hknown, rfl⟩ := Option.map_eq_some_iff.mp h
    exact packageManager_of_known hknown
  found s kind h := by
    have hchosen := chosen_packageManager (n := n) s
    generalize n.packageManager s = out at h hchosen ⊢
    cases hchosen with
    | known hknown => exact (congrArg (Option.map Prod.fst) hknown).trans (congrArg some (Except.ok.inj h))
    | failed _ _ _ => cases h
    | chosen _ _ _ _ => exact congrArg some (Except.ok.inj h)
  failed s f h := by
    have hchosen := chosen_packageManager (n := n) s
    generalize n.packageManager s = out at h hchosen ⊢
    cases hchosen with
    | known _ => cases h
    | failed _ _ hstill => exact congrArg (Option.map Prod.fst) hstill
    | chosen _ _ _ _ => cases h
  stays s kind h calls := by
    obtain ⟨⟨_, view⟩, hknown, rfl⟩ := Option.map_eq_some_iff.mp h
    exact congrArg (Option.map Prod.fst) ((firm_afterAll s calls).packages _ hknown)

end Settles

/-- Over all calls on a new node the question for sudo is answered at most once, and nothing is sent with
sudo but after a positive answer; after a negative one a call that needs sudo fails, and for that reason
if it gets past connecting. Whether there is sudo, the system and its package manager are known once they
were found and are asked for until then. -/
theorem knowledge_is_settled_once (n : Node σ) (machine : σ) (os : Option Os) (calls : List Call) :
    let start : NodeState σ := { machine, os }
    let s := n.afterAll start calls
    let told := n.history start calls
    (told.map Deed.exchange = n.exchanges start s ∧
      told.filterMap Deed.answer? = s.sudoSupported.toList ∧
      ∀ earlier x later, told = earlier ++ .command true x :: later →
        earlier.filterMap Deed.answer? = [true]) ∧
    (s.sudoSupported = some false → ∀ c command opts, command? s c = some (command, opts) →
      (opts.asRoot || n.alwaysSudo) = true → n.exchanges s (n.after s c) = [] ∧
        (n.act c s).1 = (checked s c).bind fun _ => (n.connect s).1.bind fun _ =>
          .error (.missingCapability "sudo" n.name ("cannot execute `" ++ command ++ "` with sudo"))) ∧
    (n.Settles n.supportsSudo (·.sudoSupported) ∧ n.Settles n.os (·.os) ∧
      n.Settles n.packageManager fun s => s.packages.map Prod.fst) ∧
    (∀ kind view, s.packages = some (kind, view) →
      ∃ os, s.os = some os ∧ PackageKind.ofOs os = .ok kind) ∧
    (s.os = none → let r := n.execute "cat /etc/os-release" systemOptions s
      (n.os s).1 = r.1.map systemOf ∧ (n.os s).2.contacts = r.2.contacts) ∧
    (s.packages = none → (n.packageManager s).1 = (n.os s).1.bind PackageKind.ofOs ∧
      (n.packageManager s).2.contacts = (n.os s).2.contacts) := by
  intro start s told
  obtain ⟨hleads, hlearns⟩ := learns_history (n := n) start calls
  have hbacked : n.Backed s := backed_afterAll (fun _ _ _ _ _ _ h => by cases h) calls
  have hmatched : Matched s := (firm_afterAll start calls).matched fun _ _ h => by cases h
  refine ⟨⟨hleads.exchanges_eq.symm, hlearns.answers, fun _ _ _ h => hlearns.backed h⟩,
    fun hnone c command opts => act_without_sudo hbacked hnone,
    ⟨n.settles_supportsSudo, n.settles_os, n.settles_packageManager⟩, hmatched, fun hunknown => ?_,
    fun hunknown => ?_⟩
  · have hcases := os_cases (n := n) s
    generalize n.os s = out at hcases ⊢
    cases hcases with
    | known hknown => cases hunknown.symm.trans hknown
    | failed _ hrun =>
      rw [hrun]
      exact ⟨rfl, rfl⟩
    | found _ hrun =>
      rw [hrun]
      exact ⟨rfl, rfl⟩
  · rw [packageManager_of_unknown hunknown]
    rcases n.os s with ⟨f | os, t⟩
    · exact ⟨rfl, rfl⟩
    · dsimp only [Except.bind]
      cases PackageKind.ofOs os with
      | error f => exact ⟨rfl, rfl⟩
      | ok kind => exact ⟨rfl, rfl⟩

def reachedOnce : Node Nat where
  name := "mock-vm"
  transport :=
    { describe := "mock"
      isRemote := false
      connect := fun m => (if m = 0 then .ok () else .error (.transport "mock" "down"), m + 1)
      run := fun _ m => (.ok ⟨1, "", ""⟩, m)
      close := fun m => (.ok (), m) }

theorem knowledge_is_settled_once_without_sudo :
    let s := reachedOnce.afterAll { machine := 0 } [.supportsSudo]
    s.sudoSupported = some false ∧ (reachedOnce.act (.execute "id" { asRoot := true }) s).1 =
      .error (.missingCapability "sudo" "mock-vm" "cannot execute `id` with sudo") := by
  intro s
  have hsettled := knowledge_is_settled_once reachedOnce 0 none [.supportsSudo]
  exact ⟨rfl, (hsettled.2.1 rfl (.execute "id" { asRoot := true }) "id" { asRoot := true } rfl rfl).2⟩

/-- Where there is no sudo, a call that needs it fails otherwise if the node is not reached again. -/
theorem sudo_call_fails_otherwise_when_unreachable :
    let s := reachedOnce.afterAll { machine := 0 } [.supportsSudo, .close]
    s.sudoSupported = some false ∧
      (reachedOnce.execute "id" { asRoot := true } s).1 = .error (.transport "mock" "down") ∧
      ∀ tool node reason, (reachedOnce.execute "id" { asRoot := true } s).1 ≠
        .error (.missingCapability tool node reason) := by
  intro s
  have hfault : (reachedOnce.execute "id" { asRoot := true } s).1 = .error (.transport "mock" "down") := rfl
  refine ⟨rfl, hfault, fun tool node reason h => ?_⟩
  cases hfault.symm.trans h

end Node

end HostProbe
