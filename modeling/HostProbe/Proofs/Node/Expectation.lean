import HostProbe.Proofs.Node.Cache

/-! Expected exit codes. A command that is sent is held to the code that its caller expects; a stored
result is passed on as it is. -/

namespace HostProbe.Node

open HostProbe.Text NodeM

variable {σ : Type} {n : Node σ} {command : String} {opts : ExecOptions} {s u : NodeState σ}
  {code : Int} {q : CommandRequest}

def mismatch (opts : ExecOptions) (code : Int) (result : ExecutionResult) : Fault :=
  .execution result.command result.exitCode
    (if opts.failureMessage.isEmpty then "expected exit code " ++ toString code
      else opts.failureMessage) (trimmed result.stderr)

lemma verdict_of_expected (h : opts.expected = some code) (result : ExecutionResult) :
    verdict opts result =
      if result.exitCode = code then .ok result else .error (mismatch opts code result) := by
  rw [verdict, h]
  rfl

lemma exitCode_of_execute (h : opts.expected = some code) {result : ExecutionResult}
    {t : NodeState σ} (hrun : n.execute command opts s = (.ok result, t)) : result.exitCode = code := by
  rw [execute_eq] at hrun
  obtain ⟨q, u, -, hsend⟩ := bind_eq_ok hrun
  obtain ⟨logs, hlogs⟩ := n.send_apply opts q u
  rw [hlogs] at hsend
  have hverdict := congrArg Prod.fst hsend
  cases hout : (n.transport.run q u.machine).1 with
  | error f =>
    rw [hout] at hverdict
    cases hverdict
  | ok output =>
    rw [hout] at hverdict
    change verdict opts (resultOf q.command output) = .ok result at hverdict
    rw [verdict_of_expected h] at hverdict
    split at hverdict
    case isTrue hcode =>
      cases hverdict
      exact hcode
    case isFalse => cases hverdict

lemma execute_of_mismatch (h : opts.expected = some code) {output : CommandOutput}
    (hrequest : n.request command opts s = (.ok q, u))
    (hout : (n.transport.run q u.machine).1 = .ok output) (hcode : output.exitCode ≠ code) :
    (n.execute command opts s).1 = .error (mismatch opts code (resultOf q.command output)) := by
  obtain ⟨logs, hlogs⟩ := n.send_apply opts q u
  rw [execute_eq, bind_of_ok hrequest, hlogs, hout]
  change verdict opts (resultOf q.command output) = _
  rw [verdict_of_expected h]
  exact if_neg hcode

lemma mergedEnv_of_request (hrequest : n.request command opts s = (.ok q, u)) :
    mergedEnv opts s = .ok q.env := by
  obtain ⟨_, s₁, hconnect, hrequest⟩ := bind_eq_ok hrequest
  obtain ⟨line, s₂, hprepare, hrequest⟩ := bind_eq_ok hrequest
  rw [bind_of_ok (get_apply s₂)] at hrequest
  obtain ⟨env, s₃, hmerged, hrequest⟩ := bind_eq_ok hrequest
  rw [liftM_apply] at hmerged
  cases hrequest
  have hkept : Routine s s₂ :=
    IsTrans.trans _ _ _ (n.respects_routine.connect.of_eq hconnect)
      ((within_prepare n.respects_routine.supportsSudo command opts).of_eq hprepare)
  have henv := congrArg Prod.fst hmerged
  rwa [mergedEnv, hkept.env] at henv

lemma ok_iff_served (h : opts.expected = some code) {result : ExecutionResult}
    (hcode : result.exitCode ≠ code) :
    (n.executeCached command opts s).1 = .ok result ↔
      (n.executeCached command opts s).1 = .ok result ∧
        (n.executeCached command opts s).2.contacts = s.contacts := by
  refine ⟨fun hout => ⟨hout, ?_⟩, And.left⟩
  have hcases := n.executeCached_cases command opts s
  generalize n.executeCached command opts s = out at hout hcases
  cases hcases with
  | refused hmerged => rfl
  | served hmerged hrecalled => rfl
  | failed hmerged hnew hrun => cases hout
  | ran hmerged hnew hrun =>
    cases hout
    exact absurd (exitCode_of_execute h hrun) hcode

variable {machine : σ} {os : Option Os} {calls : List Call}

/-- What a caller gets that expects an exit code. A result with another code is passed on exactly if
it is stored, from a run that did not expect the code; what the machine answers with another code is
a failure. -/
theorem ok_with_other_code_iff (hs : n.afterAll { machine, os } calls = s)
    (hexpected : opts.expected = some code) (command : String) :
    (∀ result, result.exitCode ≠ code →
      ((n.executeCached command opts s).1 = .ok result ↔
        opts.forceRun = false ∧ (∃ env, mergedEnv opts s = .ok env) ∧
          n.LastRan { machine, os } calls (n.question command opts s) result)) ∧
    (∀ q u output, n.request command opts s = (.ok q, u) →
      (n.transport.run q u.machine).1 = .ok output → output.exitCode ≠ code →
      (opts.forceRun = true ∨
        ∀ result, ¬ n.LastRan { machine, os } calls (n.question command opts s) result) →
      (n.executeCached command opts s).1 = .error (mismatch opts code (resultOf q.command output))) := by
  have hserved (result : ExecutionResult) : ((n.executeCached command opts s).1 = .ok result ∧
      (n.executeCached command opts s).2.contacts = s.contacts) ↔ _ :=
    served_afterAll nodup_names_start rfl hs
  constructor
  · -- What is run has the code or fails, so a result with another code was stored.
    intro result hcode
    rw [ok_iff_served hexpected hcode, hserved]
    exact and_left_comm
  · intro q u output hrequest hout hcode hnone
    have hmismatch := execute_of_mismatch hexpected hrequest hout hcode
    have hmerged' := mergedEnv_of_request hrequest
    have hcases := n.executeCached_cases command opts s
    generalize n.executeCached command opts s = out at hserved hcases ⊢
    cases hcases with
    | refused hmerged => cases hmerged.symm.trans hmerged'
    | served hmerged hrecalled =>
      obtain ⟨-, hforce, hlast⟩ := (hserved _).mp ⟨rfl, rfl⟩
      rcases hnone with hforced | hnone
      · cases hforce.symm.trans hforced
      · exact absurd hlast (hnone _)
    | failed hmerged hnew hrun =>
      rw [hrun] at hmismatch
      exact hmismatch
    | ran hmerged hnew hrun =>
      rw [hrun] at hmismatch
      cases hmismatch

theorem ok_with_other_code_iff_unstored :
    let n := Node.replying fun _ => ⟨1, "", "no match"⟩
    let opts := ExecOptions.successOr {} "not set"
    (n.executeCached "grep a b" opts { machine := () }).1 =
      .error (.execution "grep a b" 1 "not set" "no match") := by
  intro n opts
  have hs : n.afterAll { machine := () } [] = { machine := () } := rfl
  have hexpected : opts.expected = some 0 := rfl
  refine (ok_with_other_code_iff hs hexpected "grep a b").2 ⟨"grep a b", false, none, [], 600000⟩ _
    ⟨1, "", "no match"⟩ rfl rfl (by decide) ?_
  exact .inr fun _ => lastRan_nil

/-- A failure that was stored for a caller who expected nothing is passed on to one who expects
success, where the machine would have been held to it. -/
theorem stored_failure_passes_for_success :
    let n := Node.replying fun _ => ⟨1, "", "no match"⟩
    let opts := ExecOptions.successOr {} "not set"
    let s := n.after { machine := () } (.executeCached "grep a b" {})
    (n.executeCached "grep a b" opts s).1 = .ok ⟨"grep a b", 1, "", "no match"⟩ ∧
      (n.execute "grep a b" opts s).1 = .error (.execution "grep a b" 1 "not set" "no match") := by
  decide +kernel

end HostProbe.Node
