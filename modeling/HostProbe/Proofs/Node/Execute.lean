import HostProbe.Node.Execute
import HostProbe.Package.Install
import HostProbe.Proofs.Node.Operation

/-! Commands on a node. A command is what is sent for it and what becomes of the answer. A relation that
connecting, sending while connected and taking notes respect is respected by all that a node does,
since it connects before it sends; one such relation says that the node keeps what its caller set and
all stored results. -/

namespace HostProbe

open HostProbe.Text NodeM

variable {σ α β : Type}

namespace Node

variable (n : Node σ)

section Parts

def request (command : String) (opts : ExecOptions) : NodeM σ CommandRequest := do
  n.connect
  let line ← n.prepare command opts
  let env ← mergedEnv opts (← get)
  return ⟨line, opts.shell, effectiveDir opts (← get), env, opts.timeoutMs.getD n.timeoutMs⟩

def logRequest (opts : ExecOptions) (q : CommandRequest) : NodeM σ Unit :=
  if !opts.noInfoLog then log .info "executing" [n.field, ("command", q.command)] else pure ()

def logFailure (opts : ExecOptions) (q : CommandRequest) (result : ExecutionResult) :
    NodeM σ Unit :=
  if !result.isSuccess && !opts.noErrorLog then
    log .failure "command failed" [n.field, ("command", q.command),
      ("exit_code", toString result.exitCode), ("stderr", trimmed result.stderr)]
  else pure ()

def verdict (opts : ExecOptions) (result : ExecutionResult) : Except Fault ExecutionResult :=
  match opts.expected with
  | some code => result.requireCode code opts.failureMessage
  | none => .ok result

def send (opts : ExecOptions) (q : CommandRequest) : NodeM σ ExecutionResult := do
  n.logRequest opts q
  let result := resultOf q.command (← n.run q)
  n.logFailure opts q result
  verdict opts result

lemma execute_eq (command : String) (opts : ExecOptions) :
    n.execute command opts = n.request command opts >>= n.send opts := by
  simp only [execute, request, bind_assoc, pure_bind]
  refine bind_congr fun _ => bind_congr fun line => bind_congr fun _ => bind_congr fun env =>
    bind_congr fun s => ?_
  simp only [send, logRequest, logFailure, verdict]
  by_cases hlog : (!opts.noInfoLog) = true
  · simp only [if_pos hlog]
    refine bind_congr fun _ => bind_congr fun output => ?_
    split <;> cases opts.expected <;> rfl
  · simp only [if_neg hlog]
    refine bind_congr fun output => ?_
    split <;> cases opts.expected <;> rfl

lemma logRequest_apply (opts : ExecOptions) (q : CommandRequest) (s : NodeState σ) :
    ∃ logs, n.logRequest opts q s = (.ok (), { s with logs }) := by
  unfold logRequest
  split
  · exact ⟨_, rfl⟩
  · exact ⟨_, rfl⟩

lemma logFailure_apply (opts : ExecOptions) (q : CommandRequest) (result : ExecutionResult)
    (s : NodeState σ) : ∃ logs, n.logFailure opts q result s = (.ok (), { s with logs }) := by
  unfold logFailure
  split
  · exact ⟨_, rfl⟩
  · exact ⟨_, rfl⟩

lemma send_apply (opts : ExecOptions) (q : CommandRequest) (s : NodeState σ) :
    ∃ logs, n.send opts q s =
      ((n.transport.run q s.machine).1.bind fun output => verdict opts (resultOf q.command output),
        { s with
          machine := (n.transport.run q s.machine).2
          contacts := s.contacts ++ [.run q]
          clock := s.clock + 1
          logs }) := by
  obtain ⟨logs, hlog⟩ := n.logRequest_apply opts q s
  rw [send, bind_of_ok hlog, bind_apply, run_apply]
  rcases n.transport.run q s.machine with ⟨_ | output, m⟩
  · exact ⟨logs, rfl⟩
  · obtain ⟨logs', hlog'⟩ := n.logFailure_apply opts q (resultOf q.command output)
      { s with machine := m, contacts := s.contacts ++ [.run q], clock := s.clock + 1, logs }
    exact ⟨logs', bind_of_ok hlog' _⟩

end Parts

end Node

section Connected

variable {R : NodeState σ → NodeState σ → Prop}

def WhileConnected (R : NodeState σ → NodeState σ → Prop) (s t : NodeState σ) : Prop :=
  s.connection.done = true → R s t ∧ t.connection.done = true

def Opens (R : NodeState σ → NodeState σ → Prop) (a : NodeM σ α) : Prop :=
  ∀ s, R s (a s).2 ∧ ∀ x, (a s).1 = .ok x → (a s).2.connection.done = true

lemma Opens.within {a : NodeM σ α} (h : Opens R a) : Within R a := fun s => (h s).1

variable [IsPreorder (NodeState σ) R]

instance : IsPreorder (NodeState σ) (WhileConnected R) where
  refl s hs := ⟨refl s, hs⟩
  trans _ _ _ h h' hs := ⟨IsTrans.trans _ _ _ (h hs).1 (h' (h hs).2).1, (h' (h hs).2).2⟩

lemma Opens.bind {a : NodeM σ α} {f : α → NodeM σ β} (ha : Opens R a)
    (hf : ∀ x, Within (WhileConnected R) (f x)) : Opens R (a >>= f) := by
  intro s
  obtain ⟨hR, hopen⟩ := ha s
  rw [bind_apply]
  generalize a s = out at hR hopen ⊢
  rcases out with ⟨_ | x, t⟩
  · exact ⟨hR, nofun⟩
  · obtain ⟨hR', hopen'⟩ := hf x t (hopen x rfl)
    exact ⟨IsTrans.trans _ _ _ hR hR', fun _ _ => hopen'⟩

end Connected

namespace Node

def sudoQuestion (n : Node σ) : CommandRequest := ⟨"command -v sudo", true, none, [], n.timeoutMs⟩

section Request

variable {n : Node σ} {R : NodeState σ → NodeState σ → Prop} [IsPreorder (NodeState σ) R]

lemma within_supportsSudo (hconnect : Within R n.connect) (hask : Within R (n.run n.sudoQuestion))
    (hnote : ∀ s supported, R s { s with sudoSupported := some supported }) :
    Within R n.supportsSudo := by
  refine within_get.bind fun s => ?_
  cases s.sudoSupported with
  | some supported => exact within_pure supported
  | none =>
    refine hconnect.bind fun _ => hask.bind fun output => Within.bind ?_ fun _ => within_pure _
    exact within_modify fun s => hnote s _

variable (hsudo : Within R n.supportsSudo) (command : String) (opts : ExecOptions)

include hsudo

lemma within_prepare : Within R (n.prepare command opts) := by
  unfold Node.prepare
  split
  · exact within_pure command
  · refine hsudo.bind fun supported => ?_
    split
    · exact within_throw _
    · split
      · exact (within_liftM _).bind fun arg => within_pure _
      · exact within_pure _

lemma within_request (hconnect : Within R n.connect) : Within R (n.request command opts) :=
  hconnect.bind fun _ => (within_prepare hsudo command opts).bind fun _ =>
    within_get.bind fun _ => (within_liftM _).bind fun _ => within_get.bind fun _ => within_pure _

end Request

/-- Connecting, sending while connected and taking notes lead from each state to one that it is
related to. -/
structure Respects (n : Node σ) (R : NodeState σ → NodeState σ → Prop) : Prop where
  connect : Within R n.connect
  run q s : s.connection.done = true → R s (n.run q s).2
  logs s logs : R s { s with logs }
  sudoSupported s supported : R s { s with sudoSupported := supported }
  os s os : R s { s with os }
  packages s packages : R s { s with packages }

lemma Respects.mono {n : Node σ} {R R' : NodeState σ → NodeState σ → Prop} (h : n.Respects R)
    (hR : ∀ s t, R s t → R' s t) : n.Respects R' where
  connect := h.connect.mono hR
  run q s hs := hR _ _ (h.run q s hs)
  logs s logs := hR _ _ (h.logs s logs)
  sudoSupported s supported := hR _ _ (h.sudoSupported s supported)
  os s os := hR _ _ (h.os s os)
  packages s packages := hR _ _ (h.packages s packages)

section Respects

variable {n : Node σ} {R : NodeState σ → NodeState σ → Prop} [IsPreorder (NodeState σ) R]
  (h : n.Respects R)

include h

lemma Respects.whileConnected : n.Respects (WhileConnected R) where
  connect s hs := by
    rw [n.connect_of_connected hs]
    exact ⟨refl s, hs⟩
  run q s hs _ := ⟨h.run q s hs, hs⟩
  logs s logs hs := ⟨h.logs s logs, hs⟩
  sudoSupported s supported hs := ⟨h.sudoSupported s supported, hs⟩
  os s os hs := ⟨h.os s os, hs⟩
  packages s packages hs := ⟨h.packages s packages, hs⟩

omit [IsPreorder (NodeState σ) R] in
lemma Respects.opens_connect : Opens R n.connect := by
  refine fun s => ⟨h.connect s, fun x hx => ?_⟩
  cases hs : s.connection.done with
  | true =>
    rw [n.connect_of_connected hs]
    exact hs
  | false =>
    rw [n.connect_of_not_connected hs] at hx ⊢
    exact congrArg Except.isOk hx

omit [IsPreorder (NodeState σ) R] in
lemma Respects.within_run (q : CommandRequest) : Within (WhileConnected R) (n.run q) :=
  fun s hs => ⟨h.run q s hs, hs⟩

omit [IsPreorder (NodeState σ) R] in
lemma Respects.within_log (level : LogLevel) (message : String) (fields : List (String × String)) :
    Within R (log level message fields) := fun s => h.logs s _

lemma Respects.supportsSudo : Within R n.supportsSudo := by
  refine within_get.bind fun s => ?_
  cases s.sudoSupported with
  | some supported => exact within_pure supported
  | none =>
    refine Opens.within (h.opens_connect.bind fun _ => (h.within_run _).bind fun output => ?_)
    refine Within.bind ?_ fun _ => within_pure _
    exact within_modify fun s => h.whileConnected.sudoSupported s _

lemma Respects.opens_request (command : String) (opts : ExecOptions) :
    Opens R (n.request command opts) := by
  -- Preparing may ask for sudo first, which sends a command of its own.
  refine h.opens_connect.bind fun _ => (within_prepare h.whileConnected.supportsSudo command opts).bind fun line => ?_
  refine within_get.bind fun s => (within_liftM _).bind fun env => ?_
  exact within_get.bind fun s => within_pure _

lemma Respects.send (opts : ExecOptions) (q : CommandRequest) :
    Within (WhileConnected R) (n.send opts q) := by
  refine Within.bind ?_ fun _ => (h.within_run q).bind fun output => Within.bind ?_ fun _ =>
    within_liftM _
  · unfold logRequest
    split
    · exact h.whileConnected.within_log _ _ _
    · exact within_pure ()
  · unfold logFailure
    split
    · exact h.whileConnected.within_log _ _ _
    · exact within_pure ()

lemma Respects.opens_execute (command : String) (opts : ExecOptions) :
    Opens R (n.execute command opts) := by
  rw [execute_eq]
  exact (h.opens_request command opts).bind fun q => h.send opts q

lemma Respects.execute (command : String) (opts : ExecOptions) :
    Within R (n.execute command opts) := (h.opens_execute command opts).within

lemma Respects.pathExists (path : String) : Within R (n.pathExists path) :=
  (within_liftM _).bind fun _ => (h.execute _ _).bind fun _ => within_pure _

lemma Respects.commandExists (command : String) : Within R (n.commandExists command) :=
  (within_liftM _).bind fun _ => (h.execute _ _).bind fun _ => within_pure _

lemma Respects.detectOs : Within R n.detectOs := by
  refine (h.execute _ _).bind fun result => ?_
  split
  · exact within_pure _
  · exact (h.within_log _ _ _).bind fun _ => within_pure _

lemma Respects.detectedOs : Within R n.os := by
  refine within_get.bind fun s => ?_
  cases s.os with
  | some os => exact within_pure os
  | none =>
    refine h.detectOs.bind fun os => (h.within_log _ _ _).bind fun _ => ?_
    exact (within_modify fun s => h.os s _).bind fun _ => within_pure _

lemma Respects.packageManager : Within R n.packageManager := by
  refine within_get.bind fun s => ?_
  cases s.packages with
  | some p => exact within_pure p.1
  | none =>
    refine h.detectedOs.bind fun os => (within_liftM _).bind fun kind => ?_
    exact (within_modify fun s => h.packages s _).bind fun _ => within_pure _

lemma Respects.executeCached
    (hstore : ∀ key result s, s.connection.done = true → R s (store (σ := σ) key result s).2)
    (command : String) (opts : ExecOptions) : Within R (n.executeCached command opts) := by
  refine within_get.bind fun s => (within_liftM _).bind fun env => ?_
  dsimp only
  generalize (if opts.forceRun = true then none else s.results.lookup _) = stored
  cases stored with
  | some result => exact within_pure result
  | none =>
    refine Opens.within ((h.opens_execute command opts).bind fun result => ?_)
    refine Within.bind ?_ fun _ => within_pure _
    exact fun s hs => ⟨hstore _ result s hs, hs⟩

end Respects

lemma ensureFresh_apply (n : Node σ) (kind : PackageKind) (s : NodeState σ) :
    n.ensureFresh kind s = (.ok (), s) ∨ ∃ packages packages' out,
      n.refresh kind { s with packages } = out ∧
        n.ensureFresh kind s = (out.1, { out.2 with packages := packages' }) := by
  unfold Node.ensureFresh Once.ensure
  split
  · exact .inl rfl
  · dsimp only
    generalize Option.map _ s.packages = packages
    refine .inr ⟨packages, ?_⟩
    rcases n.refresh kind { s with packages } with ⟨_ | ⟨⟩, t⟩
    · exact ⟨_, _, rfl, rfl⟩
    · exact ⟨t.packages, _, rfl, rfl⟩

end Node

structure Kept (s t : NodeState σ) : Prop where
  workingDir : t.workingDir = s.workingDir
  env : t.env = s.env
  dumpPaths : t.dumpPaths = s.dumpPaths
  contacts : s.contacts <+: t.contacts

structure Routine (s t : NodeState σ) : Prop extends Kept s t where
  results : t.results = s.results

lemma Kept.refl (s : NodeState σ) : Kept s s := ⟨rfl, rfl, rfl, List.prefix_refl _⟩

lemma Kept.trans {s t u : NodeState σ} (h : Kept s t) (h' : Kept t u) : Kept s u where
  workingDir := h'.workingDir.trans h.workingDir
  env := h'.env.trans h.env
  dumpPaths := h'.dumpPaths.trans h.dumpPaths
  contacts := h.contacts.trans h'.contacts

instance : IsPreorder (NodeState σ) Kept where
  refl := .refl
  trans _ _ _ := .trans

instance : IsPreorder (NodeState σ) Routine where
  refl s := ⟨.refl s, rfl⟩
  trans _ _ _ h h' := ⟨h.toKept.trans h'.toKept, h'.results.trans h.results⟩

namespace Node

variable (n : Node σ)

lemma respects_routine : n.Respects Routine where
  connect := within_connect fun _ _ => ⟨⟨rfl, rfl, rfl, List.prefix_append _ _⟩, rfl⟩
  run _ _ _ := ⟨⟨rfl, rfl, rfl, List.prefix_append _ _⟩, rfl⟩
  logs _ _ := ⟨⟨rfl, rfl, rfl, List.prefix_refl _⟩, rfl⟩
  sudoSupported _ _ := ⟨⟨rfl, rfl, rfl, List.prefix_refl _⟩, rfl⟩
  os _ _ := ⟨⟨rfl, rfl, rfl, List.prefix_refl _⟩, rfl⟩
  packages _ _ := ⟨⟨rfl, rfl, rfl, List.prefix_refl _⟩, rfl⟩

lemma respects_kept : n.Respects Kept := n.respects_routine.mono fun _ _ h => h.toKept

lemma within_store (key : String) (result : ExecutionResult) :
    Within Kept (store (σ := σ) key result) := fun _ => ⟨rfl, rfl, rfl, List.prefix_refl _⟩

end Node

end HostProbe
