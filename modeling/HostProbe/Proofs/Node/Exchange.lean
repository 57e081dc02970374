import HostProbe.Proofs.Node.Execute

/-! What a node asks its machine, and what it is told. The answers follow from the requests and from the
state that the machine began in. An operation is described by what it may ask and by what its
exchanges show when it succeeds; such descriptions are composed along the operation. -/

namespace HostProbe

open HostProbe.Text NodeM

variable {σ α β S : Type}

structure Exchange where
  request : CommandRequest
  answer : Except Fault CommandOutput

namespace Transport

variable (way : Transport σ)

def after (m : σ) : Contact → σ
  | .connect => (way.connect m).2
  | .close => (way.close m).2
  | .run q => (way.run q m).2

def exchanges : σ → List Contact → List Exchange
  | _, [] => []
  | m, .connect :: rest => exchanges (way.connect m).2 rest
  | m, .close :: rest => exchanges (way.close m).2 rest
  | m, .run q :: rest => ⟨q, (way.run q m).1⟩ :: exchanges (way.run q m).2 rest

lemma exchanges_append (m : σ) (cs ds : List Contact) :
    way.exchanges m (cs ++ ds) = way.exchanges m cs ++ way.exchanges (cs.foldl way.after m) ds := by
  induction cs generalizing m with
  | nil => rfl
  | cons c cs ih =>
    cases c with
    | connect => exact ih _
    | close => exact ih _
    | run q => exact congrArg (_ :: ·) (ih _)

end Transport

structure Ask where
  asRoot : Bool := false
  shell : Bool := false
  command : Except Fault String

def ExecOptions.ask (opts : ExecOptions) (command : String) : Ask :=
  ⟨opts.asRoot, opts.shell, .ok command⟩

namespace Node

variable (n : Node σ)

def exchanges (s t : NodeState σ) : List Exchange :=
  n.transport.exchanges s.machine (t.contacts.drop s.contacts.length)

def Leads (s t : NodeState σ) (xs : List Exchange) : Prop :=
  ∃ cs, t.contacts = s.contacts ++ cs ∧ t.machine = cs.foldl n.transport.after s.machine ∧
    n.transport.exchanges s.machine cs = xs

def lineOf (a : Ask) : Except Fault String :=
  if a.asRoot || n.alwaysSudo then
    a.command.bind fun command =>
      if a.shell then (Shell.quote command).map ("sudo sh -c " ++ ·) else .ok ("sudo " ++ command)
  else a.command

/-- The lines that may be sent for some commands; whether there is sudo may have to be asked first. -/
def Permits (asks : List Ask) (line : String) : Prop :=
  line = "command -v sudo" ∨ ∃ a ∈ asks, n.lineOf a = .ok line

def Told (a : Ask) (xs : List Exchange) (output : CommandOutput) : Prop :=
  ∃ x ∈ xs, n.lineOf a = .ok x.request.command ∧ x.answer = .ok output

def Confirmed (a : Ask) (xs : List Exchange) : Prop := ∃ output, n.Told a xs output ∧ output.exitCode = 0

variable {n} {s t u : NodeState σ} {a : Ask} {asks : List Ask} {output : CommandOutput}
  {xs ys : List Exchange}

lemma Leads.exchanges_eq (h : n.Leads s t xs) : n.exchanges s t = xs := by
  obtain ⟨cs, hcontacts, -, hxs⟩ := h
  rw [Node.exchanges, hcontacts, List.drop_left, hxs]

lemma leads_of_eq (hcontacts : t.contacts = s.contacts) (hmachine : t.machine = s.machine) :
    n.Leads s t [] := ⟨[], by simpa using hcontacts, hmachine, rfl⟩

lemma leads_connect (s : NodeState σ) : n.Leads s (n.connect s).2 [] := by
  cases hd : s.connection.done with
  | true =>
    rw [n.connect_of_connected hd]
    exact leads_of_eq rfl rfl
  | false =>
    rw [n.connect_of_not_connected hd]
    exact ⟨[.connect], rfl, rfl, rfl⟩

lemma leads_close (s : NodeState σ) : n.Leads s (n.close s).2 [] := by
  cases hd : s.connection.done with
  | true =>
    rw [n.close_of_connected hd]
    exact ⟨[.close], rfl, rfl, rfl⟩
  | false =>
    rw [n.close_of_not_connected hd]
    exact leads_of_eq rfl rfl

lemma Leads.trans (h : n.Leads s t xs) (h' : n.Leads t u ys) : n.Leads s u (xs ++ ys) := by
  obtain ⟨cs, hcontacts, hmachine, rfl⟩ := h
  obtain ⟨ds, hcontacts', hmachine', rfl⟩ := h'
  refine ⟨cs ++ ds, ?_, ?_, ?_⟩
  · rw [hcontacts', hcontacts, List.append_assoc]
  · rw [hmachine', hmachine, List.foldl_append]
  · rw [Transport.exchanges_append, hmachine]

lemma Told.mono (h : n.Told a xs output) (hsubset : xs ⊆ ys) : n.Told a ys output := by
  obtain ⟨x, hx, h⟩ := h
  exact ⟨x, hsubset hx, h⟩

lemma Told.append_left (h : n.Told a ys output) (xs : List Exchange) : n.Told a (xs ++ ys) output :=
  h.mono (List.subset_append_right xs ys)

lemma Told.append_right (h : n.Told a xs output) (ys : List Exchange) : n.Told a (xs ++ ys) output :=
  h.mono (List.subset_append_left xs ys)

lemma Confirmed.mono (h : n.Confirmed a xs) (hsubset : xs ⊆ ys) : n.Confirmed a ys := by
  obtain ⟨output, htold, hcode⟩ := h
  exact ⟨output, htold.mono hsubset, hcode⟩

lemma Confirmed.append_left (h : n.Confirmed a ys) (xs : List Exchange) : n.Confirmed a (xs ++ ys) :=
  h.mono (List.subset_append_right xs ys)

lemma Confirmed.append_right (h : n.Confirmed a xs) (ys : List Exchange) : n.Confirmed a (xs ++ ys) :=
  h.mono (List.subset_append_left xs ys)

end Node

def Emits (n : Node σ) (view : S → NodeState σ) (asks : List Ask) (done : α → List Exchange → Prop)
    (a : ExceptT Fault (StateM S) α) : Prop :=
  ∀ s, Kept (view s) (view (a s).2) ∧ ∃ xs, n.Leads (view s) (view (a s).2) xs ∧
    (∀ x ∈ xs, n.Permits asks x.request.command) ∧ ∀ v, (a s).1 = .ok v → done v xs

section Emits

variable {n : Node σ} {view : S → NodeState σ} {asks : List Ask} {done : α → List Exchange → Prop}
  {a : ExceptT Fault (StateM S) α}

lemma emits_pure {x : α} (h : done x []) : Emits n view asks done (pure x) := by
  refine fun s => ⟨.refl _, [], Node.leads_of_eq rfl rfl, by simp, ?_⟩
  rintro v ⟨⟩
  exact h

lemma emits_throw (f : Fault) : Emits n view asks done (throw f) :=
  fun s => ⟨.refl _, [], Node.leads_of_eq rfl rfl, by simp, nofun⟩

lemma emits_liftM (x : Except Fault α) :
    Emits n view asks (fun v xs => x = .ok v ∧ xs = []) (liftM x : ExceptT Fault (StateM S) α) :=
  fun s => ⟨.refl _, [], Node.leads_of_eq rfl rfl, by simp, fun _ hv => ⟨hv, rfl⟩⟩

lemma emits_get : Emits n view asks (fun _ xs => xs = []) (get : ExceptT Fault (StateM S) S) :=
  fun s => ⟨.refl _, [], Node.leads_of_eq rfl rfl, by simp, fun _ _ => rfl⟩

lemma emits_modify {f : S → S} (hkept : ∀ s, Kept (view s) (view (f s)))
    (hmachine : ∀ s, (view (f s)).machine = (view s).machine)
    (hcontacts : ∀ s, (view (f s)).contacts = (view s).contacts) :
    Emits n view asks (fun _ xs => xs = []) (modify f : ExceptT Fault (StateM S) Unit) :=
  fun s => ⟨hkept s, [], Node.leads_of_eq (hcontacts s) (hmachine s), by simp, fun _ _ => rfl⟩

lemma Emits.mono {asks' : List Ask} {done' : α → List Exchange → Prop} (h : Emits n view asks done a)
    (hasks : asks ⊆ asks') (hdone : ∀ v xs, done v xs → done' v xs) : Emits n view asks' done' a := by
  intro s
  obtain ⟨hkept, xs, hleads, hsends, hok⟩ := h s
  refine ⟨hkept, xs, hleads, fun x hx => ?_, fun v hv => hdone v xs (hok v hv)⟩
  rcases hsends x hx with hsudo | ⟨a, ha, hline⟩
  · exact .inl hsudo
  · exact .inr ⟨a, hasks ha, hline⟩

lemma Emits.permits (h : Emits n view asks done a) :
    Emits n view asks (fun v xs => done v xs ∧ ∀ x ∈ xs, n.Permits asks x.request.command) a := by
  intro s
  obtain ⟨hkept, xs, hleads, hsends, hok⟩ := h s
  exact ⟨hkept, xs, hleads, hsends, fun v hv => ⟨hok v hv, hsends⟩⟩

lemma Emits.bind {done' : β → List Exchange → Prop} {f : α → ExceptT Fault (StateM S) β}
    (ha : Emits n view asks done a)
    (hf : ∀ x xs, done x xs → Emits n view asks (fun y ys => done' y (xs ++ ys)) (f x)) :
    Emits n view asks done' (a >>= f) := by
  intro s
  obtain ⟨hkept, xs, hleads, hsends, hok⟩ := ha s
  rw [bind_apply]
  generalize a s = out at hkept hleads hok ⊢
  rcases out with ⟨e | x, t⟩
  · exact ⟨hkept, xs, hleads, hsends, nofun⟩
  · obtain ⟨hkept', ys, hleads', hsends', hok'⟩ := hf x xs (hok x rfl) t
    exact ⟨hkept.trans hkept', xs ++ ys, hleads.trans hleads',
      List.forall_mem_append.mpr ⟨hsends, hsends'⟩, hok'⟩

lemma Emits.settled {P : Fault → Prop} (h : Emits n view asks done a) (hfault : Faults P a) :
    Emits n view asks (fun outcome xs => (∀ v, outcome = .ok v → done v xs) ∧
      ∀ f, outcome = .error f → P f) (settled a) := by
  intro s
  obtain ⟨hkept, xs, hleads, hsends, hok⟩ := h s
  refine ⟨hkept, xs, hleads, hsends, ?_⟩
  rintro outcome ⟨⟩
  exact ⟨hok, hfault s⟩

end Emits

namespace Node

variable {n : Node σ} {asks : List Ask}

lemma emits_log (level : LogLevel) (message : String) (fields : List (String × String)) :
    Emits n id asks (fun _ xs => xs = []) (log (σ := σ) level message fields) :=
  emits_modify (fun _ => ⟨rfl, rfl, rfl, List.prefix_refl _⟩) (fun _ => rfl) fun _ => rfl

lemma emits_wait (ms : Nat) : Emits n id asks (fun _ xs => xs = []) (wait (σ := σ) ms) :=
  emits_modify (fun _ => ⟨rfl, rfl, rfl, List.prefix_refl _⟩) (fun _ => rfl) fun _ => rfl

lemma emits_connect : Emits n id asks (fun _ xs => xs = []) n.connect :=
  fun s => ⟨n.respects_kept.connect s, [], leads_connect s, by simp, fun _ _ => rfl⟩

lemma emits_run {q : CommandRequest} (hq : n.Permits asks q.command) :
    Emits n id asks (fun output xs => xs = [⟨q, .ok output⟩]) (n.run q) := by
  intro s
  rw [n.run_apply]
  refine ⟨⟨rfl, rfl, rfl, List.prefix_append _ _⟩, [⟨q, (n.transport.run q s.machine).1⟩],
    ⟨[.run q], rfl, rfl, rfl⟩, by simpa using hq, fun output houtput => ?_⟩
  exact congrArg (fun answer => [Exchange.mk q answer]) houtput

lemma emits_supportsSudo : Emits n id asks (fun _ _ => True) n.supportsSudo := by
  refine emits_get.bind fun s _ _ => ?_
  cases s.sudoSupported with
  | some supported => exact emits_pure trivial
  | none =>
    refine emits_connect.bind fun _ _ _ => (emits_run (.inl rfl)).bind fun output _ _ => ?_
    refine Emits.bind (emits_modify ?_ (fun _ => rfl) fun _ => rfl) fun _ _ _ => emits_pure trivial
    exact fun _ => ⟨rfl, rfl, rfl, List.prefix_refl _⟩

lemma emits_prepare (command : String) (opts : ExecOptions) :
    Emits n id asks (fun line _ => n.lineOf (opts.ask command) = .ok line) (n.prepare command opts) := by
  unfold prepare lineOf ExecOptions.ask usesSudo
  cases opts.asRoot || n.alwaysSudo with
  | false => exact emits_pure rfl
  | true =>
    refine emits_supportsSudo.bind fun supported _ _ => ?_
    cases supported with
    | false => exact emits_throw _
    | true =>
      cases opts.shell with
      | true =>
        refine (emits_liftM _).bind fun arg _ harg => emits_pure ?_
        simp [Except.bind, Except.map, harg.1]
      | false => exact emits_pure rfl

lemma emits_request (command : String) (opts : ExecOptions) :
    Emits n id asks (fun q _ => n.lineOf (opts.ask command) = .ok q.command) (n.request command opts) := by
  refine emits_connect.bind fun _ _ _ => (emits_prepare command opts).bind fun line _ hline => ?_
  refine emits_get.bind fun s _ _ => (emits_liftM _).bind fun env _ _ => ?_
  exact emits_get.bind fun s _ _ => emits_pure hline

structure Resulted (n : Node σ) (a : Ask) (expected : Option Int) (result : ExecutionResult)
    (x : Exchange) : Prop where
  line : n.lineOf a = .ok x.request.command
  answer : ∃ output, x.answer = .ok output ∧ result = resultOf x.request.command output
  code : ∀ code, expected = some code → result.exitCode = code

lemma code_of_verdict {opts : ExecOptions} {result result' : ExecutionResult}
    (h : verdict opts result = .ok result') :
    result' = result ∧ ∀ code, opts.expected = some code → result'.exitCode = code := by
  unfold verdict at h
  cases hexpected : opts.expected with
  | none =>
    rw [hexpected] at h
    cases h
    exact ⟨rfl, nofun⟩
  | some code =>
    rw [hexpected] at h
    dsimp only [ExecutionResult.requireCode] at h
    split at h
    · next hcode =>
      cases h
      exact ⟨rfl, fun _ he => Option.some.inj he ▸ hcode⟩
    · cases h

lemma emits_send {opts : ExecOptions} {q : CommandRequest} {a : Ask} (ha : a ∈ asks)
    (hline : n.lineOf a = .ok q.command) :
    Emits n id asks (fun result xs => ∃ x, xs = [x] ∧ n.Resulted a opts.expected result x)
      (n.send opts q) := by
  intro s
  obtain ⟨logs, hsend⟩ := n.send_apply opts q s
  rw [hsend]
  refine ⟨⟨rfl, rfl, rfl, List.prefix_append _ _⟩, [⟨q, (n.transport.run q s.machine).1⟩],
    ⟨[.run q], rfl, rfl, rfl⟩, ?_, fun result hresult => ?_⟩
  · simpa using .inr ⟨a, ha, hline⟩
  · rcases hrun : (n.transport.run q s.machine).1 with f | output
    · rw [hrun] at hresult
      cases hresult
    · rw [hrun] at hresult
      obtain ⟨rfl, hcode⟩ := code_of_verdict hresult
      exact ⟨_, rfl, hline, ⟨output, rfl, rfl⟩, hcode⟩

lemma emits_execute_last {command : String} {opts : ExecOptions} (h : opts.ask command ∈ asks) :
    Emits n id asks (fun result xs => ∃ ys x, xs = ys ++ [x] ∧
      (∀ y ∈ ys, n.Permits [] y.request.command) ∧ n.Resulted (opts.ask command) opts.expected result x)
      (n.execute command opts) := by
  rw [execute_eq]
  have hrequest : Emits n id [] _ (n.request command opts) := (emits_request command opts).permits
  refine (hrequest.mono (List.nil_subset _) fun _ _ h => h).bind fun q xs hq => ?_
  refine (emits_send h hq.1).mono (List.Subset.refl _) ?_
  rintro result ys ⟨x, rfl, hx⟩
  exact ⟨xs, x, rfl, hq.2, hx⟩

lemma emits_execute {command : String} {opts : ExecOptions} (h : opts.ask command ∈ asks) :
    Emits n id asks
      (fun result xs => ∃ ys x, xs = ys ++ [x] ∧ n.Resulted (opts.ask command) opts.expected result x)
      (n.execute command opts) :=
  (emits_execute_last h).mono (List.Subset.refl _) fun _ _ ⟨ys, x, hxs, _, hx⟩ => ⟨ys, x, hxs, hx⟩

lemma emits_executeCached {command : String} {opts : ExecOptions} (h : opts.ask command ∈ asks) :
    Emits n id asks
      (fun result xs => (opts.forceRun = false ∧ xs = []) ∨
        ∃ ys x, xs = ys ++ [x] ∧ n.Resulted (opts.ask command) opts.expected result x)
      (n.executeCached command opts) := by
  refine emits_get.bind fun s xs hxs => (emits_liftM _).bind fun env ys henv => ?_
  cases hxs
  obtain ⟨-, rfl⟩ := henv
  dsimp only
  split
  · next result hstored =>
    refine emits_pure (.inl ⟨?_, rfl⟩)
    cases hforce : opts.forceRun with
    | false => rfl
    | true => simp [hforce] at hstored
  · refine (emits_execute h).bind fun result zs hresult => ?_
    refine Emits.bind (emits_modify ?_ (fun _ => rfl) fun _ => rfl) fun _ ws hws => ?_
    · exact fun _ => ⟨rfl, rfl, rfl, List.prefix_refl _⟩
    · cases hws
      exact emits_pure (.inr (by simpa using hresult))

lemma Resulted.told {a : Ask} {expected : Option Int} {result : ExecutionResult} {x : Exchange}
    (h : n.Resulted a expected result x) (xs : List Exchange) :
    ∃ output, n.Told a (xs ++ [x]) output ∧ result.stdout = trimmed output.stdout ∧
      result.exitCode = output.exitCode := by
  obtain ⟨output, hanswer, rfl⟩ := h.answer
  exact ⟨output, ⟨x, by simp, h.line, hanswer⟩, rfl, rfl⟩

lemma Resulted.confirmed {a : Ask} {result : ExecutionResult} {x : Exchange}
    (h : n.Resulted a (some 0) result x) (xs : List Exchange) : n.Confirmed a (xs ++ [x]) := by
  obtain ⟨output, htold, -, hcode⟩ := h.told xs
  exact ⟨output, htold, hcode ▸ h.code 0 rfl⟩

end Node

namespace Ask

def test (path : String) : Ask := ⟨false, true, (Shell.quote path).map ("test -e " ++ ·)⟩

def which (command : String) : Ask := ⟨false, true, (Shell.quote command).map ("command -v " ++ ·)⟩

def release : Ask := ⟨false, false, .ok "cat /etc/os-release"⟩

end Ask

namespace Node

variable {n : Node σ} {asks : List Ask}

lemma emits_executeQuoted {value : String} {line : String → String} {opts : ExecOptions}
    {done : α → List Exchange → Prop} {f : ExecutionResult → NodeM σ α} {a : Ask} (ha : a ∈ asks)
    (heq : a = ⟨opts.asRoot, opts.shell, (Shell.quote value).map line⟩)
    (hf : ∀ result xs x, n.Resulted a opts.expected result x →
      Emits n id asks (fun v ys => done v (xs ++ [x] ++ ys)) (f result)) :
    Emits n id asks done (do
      let arg ← (liftM (Shell.quote value) : NodeM σ String)
      let result ← n.execute (line arg) opts
      f result) := by
  refine (emits_liftM _).bind fun arg xs harg => ?_
  obtain ⟨harg, rfl⟩ := harg
  have hask : a = opts.ask (line arg) := by
    rw [heq, harg]
    rfl
  refine (emits_execute (hask ▸ ha)).bind fun result ys hresult => ?_
  obtain ⟨zs, x, rfl, hx⟩ := hresult
  exact hf result zs x (hask ▸ hx)

lemma emits_pathExists {path : String} (h : .test path ∈ asks) :
    Emits n id asks
      (fun present xs => ∃ output, n.Told (.test path) xs output ∧ present = (output.exitCode == 0))
      (n.pathExists path) := by
  refine emits_executeQuoted h rfl fun result xs x hx => emits_pure ?_
  obtain ⟨output, htold, -, hcode⟩ := hx.told xs
  exact ⟨output, htold.append_right [], congrArg (· == 0) hcode⟩

lemma emits_commandExists_last {command : String} (h : .which command ∈ asks) :
    Emits n id asks (fun present xs => ∃ ys x output, xs = ys ++ [x] ∧
      (∀ y ∈ ys, n.Permits [] y.request.command) ∧ x.answer = .ok output ∧
        present = (output.exitCode == 0)) (n.commandExists command) := by
  refine (emits_liftM _).bind fun arg xs harg => ?_
  obtain ⟨harg, rfl⟩ := harg
  have hask : .which command = (ExecOptions.quiet { shell := true }).ask ("command -v " ++ arg) := by
    rw [Ask.which, harg]
    rfl
  refine (emits_execute_last (hask ▸ h)).bind fun result ys hresult => emits_pure ?_
  obtain ⟨zs, x, rfl, hbefore, hx⟩ := hresult
  obtain ⟨output, hanswer, rfl⟩ := hx.answer
  exact ⟨zs, x, output, by simp, hbefore, hanswer, rfl⟩

lemma emits_commandExists {command : String} (h : .which command ∈ asks) :
    Emits n id asks (fun _ _ => True) (n.commandExists command) :=
  (emits_commandExists_last h).mono (List.Subset.refl _) fun _ _ _ => trivial

lemma emits_os (h : .release ∈ asks) : Emits n id asks (fun _ _ => True) n.os := by
  have hdetect : Emits n id asks (fun _ _ => True) n.detectOs := by
    refine (emits_execute h).bind fun result _ _ => ?_
    split
    · exact emits_pure trivial
    · exact (emits_log _ _ _).bind fun _ _ _ => emits_pure trivial
  refine emits_get.bind fun s _ _ => ?_
  cases s.os with
  | some os => exact emits_pure trivial
  | none =>
    refine hdetect.bind fun os _ _ => (emits_log _ _ _).bind fun _ _ _ => ?_
    refine Emits.bind (emits_modify ?_ (fun _ => rfl) fun _ => rfl) fun _ _ _ => emits_pure trivial
    exact fun _ => ⟨rfl, rfl, rfl, List.prefix_refl _⟩

end Node

section Line

variable {n : Node σ}

namespace Ask

def Avoids (a : Ask) (start : String) : Prop :=
  ∀ command, a.command = .ok command → (a.asRoot = false → ¬ start.toList <+: command.toList) ∧
    if a.shell then ∀ arg, ¬ start.toList <+: ("sudo sh -c " ++ arg).toList
    else ¬ start.toList <+: ("sudo " ++ command).toList

end Ask

namespace Node

lemma lineOf_eq_ok {a : Ask} {line : String} (h : n.lineOf a = .ok line) :
    ∃ command, a.command = .ok command ∧ ((a.asRoot = false ∧ line = command) ∨
      if a.shell then ∃ arg, line = "sudo sh -c " ++ arg else line = "sudo " ++ command) := by
  rw [lineOf] at h
  cases hcommand : a.command with
  | error f =>
    rw [hcommand] at h
    split at h <;> cases h
  | ok command =>
    refine ⟨command, rfl, ?_⟩
    rw [hcommand] at h
    split at h
    · refine .inr ?_
      cases hshell : a.shell with
      | true =>
        simp only [Except.bind, hshell, if_true] at h ⊢
        cases harg : Shell.quote command with
        | error f =>
          rw [harg] at h
          cases h
        | ok arg =>
          rw [harg] at h
          cases h
          exact ⟨arg, rfl⟩
      | false =>
        simp only [Except.bind, hshell, Bool.false_eq_true, if_false] at h ⊢
        cases h
        rfl
    · next hsudo =>
      have hplain : a.asRoot = false ∧ n.alwaysSudo = false := by simpa using hsudo
      cases h
      exact .inl ⟨hplain.1, rfl⟩

lemma Permits.not_start {asks : List Ask} {start line : String} (h : n.Permits asks line)
    (hsudo : ¬ start.toList <+: "command -v sudo".toList) (hasks : ∀ a ∈ asks, a.Avoids start) :
    ¬ start.toList <+: line.toList := by
  rcases h with rfl | ⟨a, ha, hline⟩
  · exact hsudo
  · obtain ⟨command, hcommand, h⟩ := lineOf_eq_ok hline
    obtain ⟨hplain, hroot⟩ := hasks a ha command hcommand
    rcases h with ⟨ha, rfl⟩ | h
    · exact hplain ha
    · cases hshell : a.shell with
      | true =>
        simp only [hshell, if_true] at h hroot
        obtain ⟨arg, rfl⟩ := h
        exact hroot arg
      | false =>
        simp only [hshell, Bool.false_eq_true, if_false] at h hroot
        exact h ▸ hroot

end Node

end Line

end HostProbe
