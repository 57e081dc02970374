import HostProbe.Proofs.Node.Call
import HostProbe.Proofs.Node.Question
import HostProbe.Proofs.Node.Replies

/-! Stored results over runs of calls. A question is answered without asking the machine exactly if
it was put to the machine since the last close, and then as the last time. -/

namespace HostProbe.Node

open NodeM

variable {σ : Type} (n : Node σ)

section Step

variable (command : String) (opts : ExecOptions) (s : NodeState σ)

def recalled (env : Environment) : Option ExecutionResult :=
  if opts.forceRun then none else s.results.lookup (n.resultKey command opts env s)

inductive Cached : Except Fault ExecutionResult × NodeState σ → Prop where
  | refused {f : Fault} (hmerged : mergedEnv opts s = .error f) : Cached (.error f, s)
  | served {env : Environment} {result : ExecutionResult} (hmerged : mergedEnv opts s = .ok env)
      (hrecalled : n.recalled command opts s env = some result) : Cached (.ok result, s)
  | failed {env : Environment} {f : Fault} {t : NodeState σ} (hmerged : mergedEnv opts s = .ok env)
      (hnew : n.recalled command opts s env = none)
      (hrun : n.execute command opts s = (.error f, t)) : Cached (.error f, t)
  | ran {env : Environment} {result : ExecutionResult} {t : NodeState σ}
      (hmerged : mergedEnv opts s = .ok env) (hnew : n.recalled command opts s env = none)
      (hrun : n.execute command opts s = (.ok result, t)) :
      Cached (.ok result, (store (n.resultKey command opts env s) result t).2)

lemma executeCached_cases : n.Cached command opts s (n.executeCached command opts s) := by
  rw [executeCached, bind_of_ok (get_apply s)]
  cases hmerged : mergedEnv opts s with
  | error f =>
    rw [bind_of_error (liftM_apply _ s)]
    exact .refused hmerged
  | ok env =>
    rw [bind_of_ok (liftM_apply _ s)]
    have hlookup : (if opts.forceRun then none else
        s.results.lookup (n.resultKey command opts env s)) = n.recalled command opts s env := rfl
    rw [hlookup]
    cases hrecalled : n.recalled command opts s env with
    | some result => exact .served hmerged hrecalled
    | none =>
      rcases hrun : n.execute command opts s with ⟨f | result, t⟩
      · dsimp only
        rw [bind_of_error hrun]
        exact .failed hmerged hrecalled hrun
      · dsimp only
        rw [bind_of_ok hrun]
        exact .ran hmerged hrecalled hrun

variable {n command opts s}

lemma contacts_execute {result : ExecutionResult} {t : NodeState σ}
    (h : n.execute command opts s = (.ok result, t)) : s.contacts.length < t.contacts.length := by
  rw [execute_eq] at h
  obtain ⟨q, u, hrequest, hsend⟩ := bind_eq_ok h
  have hkept : Routine s u :=
    (n.respects_routine.opens_request command opts).within.of_eq hrequest
  obtain ⟨logs, hlogs⟩ := n.send_apply opts q u
  have ht : t.contacts = u.contacts ++ [.run q] := by
    rw [hlogs] at hsend
    exact congrArg (fun out => out.2.contacts) hsend.symm
  rw [ht, List.length_append, List.length_singleton]
  exact Nat.lt_succ_of_le hkept.contacts.length_le

lemma results_execute {out : Except Fault ExecutionResult} {t : NodeState σ}
    (h : n.execute command opts s = (out, t)) : t.results = s.results :=
  ((n.respects_routine.execute command opts).of_eq h).results

lemma after_executeCached :
    n.after s (.executeCached command opts) = (n.executeCached command opts s).2 := by
  rw [after, act, bind_apply]
  rcases n.executeCached command opts s with ⟨_ | _, _⟩ <;> rfl

end Step

section Store

variable {s : NodeState σ} {key key' : String} {result : ExecutionResult}

@[simp] lemma lookup_store_self : (store key result s).2.results.lookup key = some result :=
  List.lookup_cons_self

lemma lookup_store_of_ne (h : key' ≠ key) :
    (store key result s).2.results.lookup key' = s.results.lookup key' :=
  (Association.lookup_cons_of_ne h).trans (Association.lookup_filter_of_ne h)

end Store

def Runs (s : NodeState σ) (c : Call) (q : Question) (result : ExecutionResult) : Prop :=
  ∃ command opts, c = .executeCached command opts ∧ n.question command opts s = q ∧
    (n.executeCached command opts s).1 = .ok result ∧
    (n.executeCached command opts s).2.contacts ≠ s.contacts

def Undisturbed (q : Question) : NodeState σ → List Call → Prop
  | _, [] => True
  | s, c :: rest =>
    c ≠ .close ∧ (∀ result, ¬ n.Runs s c q result) ∧ Undisturbed q (n.after s c) rest

def LastRan (s : NodeState σ) (calls : List Call) (q : Question) (result : ExecutionResult) : Prop :=
  ∃ earlier c later, calls = earlier ++ c :: later ∧ n.Runs (n.afterAll s earlier) c q result ∧
    n.Undisturbed q (n.after (n.afterAll s earlier) c) later

variable {n} {s : NodeState σ}

lemma runs_executeCached {command : String} {opts : ExecOptions} {q : Question}
    {result : ExecutionResult} :
    n.Runs s (.executeCached command opts) q result ↔ n.question command opts s = q ∧
      (n.executeCached command opts s).1 = .ok result ∧
      (n.executeCached command opts s).2.contacts ≠ s.contacts := by
  constructor
  · rintro ⟨command, opts, ⟨⟩, h⟩
    exact h
  · exact fun h => ⟨command, opts, rfl, h⟩

lemma lastRan_nil {q : Question} {result : ExecutionResult} : ¬ n.LastRan s [] q result := by
  rintro ⟨earlier, c, later, hcalls, -⟩
  exact List.append_ne_nil_of_right_ne_nil _ (List.cons_ne_nil _ _) hcalls.symm

lemma lastRan_cons {c : Call} {rest : List Call} {q : Question} {result : ExecutionResult} :
    n.LastRan s (c :: rest) q result ↔ n.LastRan (n.after s c) rest q result ∨
      (n.Runs s c q result ∧ n.Undisturbed q (n.after s c) rest) := by
  constructor
  · rintro ⟨earlier, d, later, hcalls, hruns, hlater⟩
    cases earlier with
    | nil =>
      cases hcalls
      exact .inr ⟨hruns, hlater⟩
    | cons e earlier =>
      cases hcalls
      exact .inl ⟨earlier, d, later, rfl, hruns, hlater⟩
  · rintro (⟨earlier, d, later, rfl, hruns, hlater⟩ | ⟨hruns, hlater⟩)
    · exact ⟨c :: earlier, d, later, rfl, hruns, hlater⟩
    · exact ⟨[], c, rest, rfl, hruns, hlater⟩

lemma nodup_names_after (hs : (Environment.names s.env).Nodup) (c : Call) :
    (Environment.names (n.after s c).env).Nodup := by
  have hkept : n.Respects (Saves fun s => (Environment.names s.env).Nodup) :=
    n.respects_routine.mono fun s t h (hs : (Environment.names s.env).Nodup) =>
      show (Environment.names t.env).Nodup by rwa [h.env]
  refine hkept.call (fun _ s hs => ?_) (fun _ _ _ _ _ _ _ hs => hs) (fun _ _ s hs => hs)
    (fun name value _ s hs => Environment.nodup_define hs) s hs
  cases hd : s.connection.done with
  | true => rwa [n.close_of_connected hd]
  | false => rwa [n.close_of_not_connected hd]

lemma nodup_names_afterAll (hs : (Environment.names s.env).Nodup) (calls : List Call) :
    (Environment.names (n.afterAll s calls).env).Nodup :=
  n.afterAll_of_after (R := Saves fun s => (Environment.names s.env).Nodup)
    (fun _ c hs => nodup_names_after hs c) s calls hs

lemma nodup_names_start {machine : σ} {os : Option Os} :
    (Environment.names (NodeState.env { machine, os : NodeState σ })).Nodup := .nil

def SameResults (s t : NodeState σ) : Prop := t.results = s.results

instance : IsPreorder (NodeState σ) SameResults where
  refl _ := rfl
  trans _ _ _ h h' := h'.trans h

lemma results_after {c : Call} (hclose : c ≠ .close)
    (hcached : ∀ command opts, c ≠ .executeCached command opts) :
    (n.after s c).results = s.results := by
  have hsame : n.Respects SameResults := n.respects_routine.mono fun _ _ h => h.results
  exact hsame.call (fun h => absurd h hclose) (fun command opts h => absurd h (hcached command opts))
    (fun _ _ _ => rfl) (fun _ _ _ _ => rfl) s

lemma results_close {rule : Bool → σ → Prop} (hs : Linked rule s) :
    (n.after s .close).results = [] := by
  change (n.close s).2.results = []
  cases hd : s.connection.done with
  | true => rw [n.close_of_connected hd]
  | false =>
    rw [n.close_of_not_connected hd]
    exact hs.forgotten hd

lemma results_after_of_error {c : Call} {f : Fault} (hclose : c ≠ .close)
    (h : (n.act c s).1 = .error f) : (n.after s c).results = s.results := by
  by_cases hcached : ∃ command opts, c = .executeCached command opts
  · obtain ⟨command, opts, rfl⟩ := hcached
    rw [after_executeCached]
    rw [act, bind_apply] at h
    have hcases := n.executeCached_cases command opts s
    generalize n.executeCached command opts s = out at h hcases
    cases hcases with
    | refused hmerged => rfl
    | served hmerged hrecalled => cases h
    | failed hmerged hnew hrun => exact results_execute hrun
    | ran hmerged hnew hrun => cases h
  · exact results_after hclose fun command opts hc => hcached ⟨command, opts, hc⟩

section Stored

variable {command : String} {opts : ExecOptions} {env : Environment} {u : NodeState σ}
  (hu : (Environment.names u.env).Nodup) (hmerged : mergedEnv opts u = .ok env)

include hu hmerged

lemma lookup_after {rule : Bool → σ → Prop} (hs : (Environment.names s.env).Nodup)
    (hlinked : Linked rule s) (c : Call) (result : ExecutionResult) :
    (n.after s c).results.lookup (n.resultKey command opts env u) = some result ↔
      n.Runs s c (n.question command opts u) result ∨
      (c ≠ .close ∧ (∀ r, ¬ n.Runs s c (n.question command opts u) r) ∧
        s.results.lookup (n.resultKey command opts env u) = some result) := by
  by_cases hcached : ∃ command opts, c = .executeCached command opts
  · obtain ⟨command', opts', rfl⟩ := hcached
    simp only [after_executeCached, runs_executeCached]
    have hcases := n.executeCached_cases command' opts' s
    generalize n.executeCached command' opts' s = out at hcases
    cases hcases with
    | refused hmerged' => simp
    | served hmerged' hrecalled => simp
    | failed hmerged' hnew hrun => simp [results_execute hrun]
    | @ran env' r t hmerged' hnew hrun =>
      have hcontacts : (store (n.resultKey command' opts' env' s) r t).2.contacts ≠ s.contacts :=
        fun he => (contacts_execute hrun).ne (congrArg List.length he).symm
      have hkey : n.resultKey command opts env u = n.resultKey command' opts' env' s ↔
          n.question command opts u = n.question command' opts' s :=
        n.resultKey_eq_iff_question hu hs hmerged hmerged'
      -- A run stores under the key of its own question, so it leaves the results of all others.
      by_cases hq : n.question command opts u = n.question command' opts' s
      · simp [hkey.mpr hq, hq, hcontacts]
      · have hne := fun he => hq (hkey.mp he)
        simp [lookup_store_of_ne hne, results_execute hrun, Ne.symm hq]
  · by_cases hclose : c = .close
    · subst hclose
      simp [results_close hlinked, Runs]
    · have hruns : ∀ q r, ¬ n.Runs s c q r := by
        rintro q r ⟨command, opts, rfl, -⟩
        exact hcached ⟨command, opts, rfl⟩
      simp [results_after hclose fun command opts hc => hcached ⟨command, opts, hc⟩, hclose, hruns]

lemma lookup_afterAll (hs : (Environment.names s.env).Nodup) (hlinked : Linked (fun _ _ => True) s)
    (calls : List Call) (result : ExecutionResult) :
    (n.afterAll s calls).results.lookup (n.resultKey command opts env u) = some result ↔
      n.LastRan s calls (n.question command opts u) result ∨
      (n.Undisturbed (n.question command opts u) s calls ∧
        s.results.lookup (n.resultKey command opts env u) = some result) := by
  -- On the calls from the first on: what is stored at the start counts for as long as nothing of
  -- the question is run.
  induction calls generalizing s with
  | nil => simp [afterAll, lastRan_nil, Undisturbed]
  | cons c rest ih =>
    have hafter : Linked (fun _ _ => True) (n.after s c) := linked_after n.transport.obeys_true hlinked c
    change (n.afterAll (n.after s c) rest).results.lookup _ = some result ↔ _
    rw [ih (nodup_names_after hs c) hafter, lookup_after hu hmerged hs hlinked, lastRan_cons,
      Undisturbed]
    tauto

end Stored

lemma served_iff {command : String} {opts : ExecOptions} {result : ExecutionResult} :
    ((n.executeCached command opts s).1 = .ok result ∧
      (n.executeCached command opts s).2.contacts = s.contacts) ↔
      ∃ env, mergedEnv opts s = .ok env ∧ n.recalled command opts s env = some result := by
  have hcases := n.executeCached_cases command opts s
  generalize n.executeCached command opts s = out at hcases
  constructor
  · rintro ⟨hok, hcontacts⟩
    cases hcases with
    | refused hmerged => cases hok
    | served hmerged hrecalled =>
      cases hok
      exact ⟨_, hmerged, hrecalled⟩
    | failed hmerged hnew hrun => cases hok
    | ran hmerged hnew hrun =>
      exact absurd (congrArg List.length hcontacts).symm (contacts_execute hrun).ne
  · rintro ⟨env, hmerged', hrecalled'⟩
    cases hcases with
    | refused hmerged => cases hmerged.symm.trans hmerged'
    | served hmerged hrecalled =>
      cases hmerged.symm.trans hmerged'
      cases hrecalled.symm.trans hrecalled'
      exact ⟨rfl, rfl⟩
    | failed hmerged hnew hrun =>
      cases hmerged.symm.trans hmerged'
      cases hnew.symm.trans hrecalled'
    | ran hmerged hnew hrun =>
      cases hmerged.symm.trans hmerged'
      cases hnew.symm.trans hrecalled'

lemma served_afterAll (hs : (Environment.names s.env).Nodup) (hempty : s.results = [])
    {calls : List Call} {t : NodeState σ} (ht : n.afterAll s calls = t) {command : String}
    {opts : ExecOptions} {result : ExecutionResult} :
    ((n.executeCached command opts t).1 = .ok result ∧
      (n.executeCached command opts t).2.contacts = t.contacts) ↔
      (∃ env, mergedEnv opts t = .ok env) ∧ opts.forceRun = false ∧
        n.LastRan s calls (n.question command opts t) result := by
  subst ht
  have hstored (env : Environment) (hmerged : mergedEnv opts (n.afterAll s calls) = .ok env) :
      n.recalled command opts (n.afterAll s calls) env = some result ↔ opts.forceRun = false ∧
        n.LastRan s calls (n.question command opts (n.afterAll s calls)) result := by
    have hlookup : (n.afterAll s calls).results.lookup
        (n.resultKey command opts env (n.afterAll s calls)) = some result ↔ _ :=
      lookup_afterAll (nodup_names_afterAll hs calls) hmerged hs ⟨trivial, fun _ => hempty⟩ calls
        result
    rw [hempty] at hlookup
    rw [recalled]
    cases opts.forceRun with
    | true => simp
    | false => simpa using hlookup
  rw [served_iff]
  constructor
  · rintro ⟨env, hmerged, hrecalled⟩
    exact ⟨⟨env, hmerged⟩, (hstored env hmerged).mp hrecalled⟩
  · rintro ⟨⟨env, hmerged⟩, hlast⟩
    exact ⟨env, hmerged, (hstored env hmerged).mpr hlast⟩

/-- After any calls on a new node, a command is answered without asking the machine exactly if its
question was run and succeeded since the last close, and then with the result of the last such run.
A call that fails leaves the stored results as they are; only a close forgets them, however it
ends. -/
theorem served_iff_last_ran (n : Node σ) {machine : σ} {os : Option Os} {calls : List Call}
    {s : NodeState σ} (hs : n.afterAll { machine, os } calls = s) :
    (∀ command opts env, opts.forceRun = false → mergedEnv opts s = .ok env → ∀ result,
      ((n.executeCached command opts s).1 = .ok result ∧
        (n.executeCached command opts s).2.contacts = s.contacts) ↔
      n.LastRan { machine, os } calls (n.question command opts s) result) ∧
    (∀ c f, c ≠ .close → (n.act c s).1 = .error f → (n.after s c).results = s.results) ∧
    (n.after s .close).results = [] := by
  subst hs
  have hlinked : Linked (fun _ _ => True) ({ machine, os } : NodeState σ) := ⟨trivial, fun _ => rfl⟩
  refine ⟨fun command opts env hforce hmerged result => ?_, fun c f => results_after_of_error,
    results_close (linked_afterAll n.transport.obeys_true hlinked calls)⟩
  rw [served_afterAll nodup_names_start rfl rfl]
  exact ⟨fun h => h.2.2, fun h => ⟨⟨env, hmerged⟩, hforce, h⟩⟩

theorem served_iff_last_ran_reordered :
    let n := Node.replying fun _ => ⟨1, " no ", "gone"⟩
    let s := n.afterAll { machine := (), os := none }
      [.updateEnv "A" "1", .executeCached "find a" { env := [("B", "2")] }, .pathExists "/"]
    let opts : ExecOptions := { env := [("B", "2"), ("A", "1")] }
    (n.executeCached "find a" opts s).1 = .ok ⟨"find a", 1, "no", "gone"⟩ ∧
      (n.executeCached "find a" opts s).2.contacts = s.contacts := by
  intro n s opts
  have hmerged : mergedEnv opts s = .ok [("A", "1"), ("B", "2")] := by decide +kernel
  refine ((served_iff_last_ran n (s := s) rfl).1 "find a" opts _ rfl hmerged _).mpr ?_
  refine ⟨[.updateEnv "A" "1"], .executeCached "find a" { env := [("B", "2")] }, [.pathExists "/"],
    rfl, ⟨"find a", _, rfl, ?_, ?_⟩, ?_⟩
  · have henv : s.env = [("A", "1")] := by decide +kernel
    have hdir : s.workingDir = none := by decide +kernel
    rw [question_eq, question_eq, effectiveDir, effectiveDir, henv, hdir]
    rfl
  · decide +kernel
  · refine ⟨?_, fun _ => ?_, trivial⟩
    · rintro ⟨⟩
    · rintro ⟨_, _, ⟨⟩, _⟩

end HostProbe.Node
