import HostProbe.Proofs.Node.Expectation
import HostProbe.Proofs.Node.Knowledge

/-! The variables that a command is sent with. A run of calls leaves the definitions that were made for the
node, and those of a command are laid over them; so the command carries each name once, in the place of its
first definition and with the value of its last. A name that is not portable stops the command before it is
sent, but not before the node is connected and is known to have the sudo that the command needs. -/

namespace HostProbe

open NodeM

variable {σ : Type}

namespace Shell

def unportable (name : String) : Fault :=
  .invalidArgument ("`" ++ Text.bare name ++ "` is not a valid environment variable name")

lemma invalidArgument_of_quote {value : String} {f : Fault} (h : quote value = .error f) :
    ∃ message, f = .invalidArgument message := by
  unfold quote at h
  split at h
  · cases h
  · cases h
    exact ⟨_, rfl⟩

end Shell

namespace Environment

variable {env : Environment} {l : List String} {entry : String × String}

def last? (definitions : List (String × String)) (name : String) : Option String :=
  definitions.reverse.lookup name

structure Merges (sets given : List (String × String)) (env : Environment) : Prop where
  once : (names env).Nodup
  order : names env = ((sets ++ given).map Prod.fst).eraseDups
  value name : env.lookup name = (last? given name).or (last? sets name)

lemma names_define (name value : String) (env : Environment) :
    names (define name value env) = if name ∈ names env then names env else names env ++ [name] := by
  induction env with
  | nil => simp [define, names]
  | cons p rest ih =>
    by_cases h : p.1 = name
    · simp [define, names, h]
    · have hdefine : names (define name value (p :: rest)) = p.1 :: names (define name value rest) := by
        simp [define, names, h]
      have hcons : names (p :: rest) = p.1 :: names rest := rfl
      rw [hdefine, hcons, ih]
      by_cases hrest : name ∈ names rest
      · simp [hrest]
      · simp [hrest, Ne.symm h]

lemma eraseDups_concat (l : List String) (x : String) :
    (l ++ [x]).eraseDups = if x ∈ l then l.eraseDups else l.eraseDups ++ [x] := by
  rw [List.eraseDups_append]
  split
  · next h => simp [List.removeAll, h]
  · next h => simp [List.removeAll, h, List.eraseDups_cons]

lemma names_defineAll (h : names env = l.eraseDups) (more : List (String × String)) :
    names (env.defineAll more) = (l ++ more.map Prod.fst).eraseDups := by
  induction more generalizing env l with
  | nil =>
    rw [List.map_nil, List.append_nil]
    exact h
  | cons p rest ih =>
    rw [List.map_cons, List.append_cons]
    apply ih
    rw [names_define, eraseDups_concat, h]
    simp only [List.mem_eraseDups]

lemma merges_defineAll (sets given : List (String × String)) :
    Merges sets given (defineAll (defineAll [] sets) given) := by
  have hall : defineAll (defineAll [] sets) given = defineAll [] (sets ++ given) := List.foldl_append.symm
  have hnone : (names []).Nodup := .nil
  rw [hall]
  refine ⟨nodup_defineAll hnone _, names_defineAll (l := []) rfl _, fun name => ?_⟩
  rw [lookup_defineAll, List.append_nil, List.reverse_append, List.lookup_append]
  rfl

lemma checked_of_mem (hentry : entry ∈ env) (h : Shell.isPortableName entry.1.toList = false) :
    ∃ first ∈ env, Shell.isPortableName first.1.toList = false ∧
      env.checked = .error (Shell.unportable first.1) := by
  induction env with
  | nil => cases hentry
  | cons first rest ih =>
    rw [checked_cons, Shell.envName]
    cases hfirst : Shell.isPortableName first.1.toList with
    | false => exact ⟨first, List.mem_cons_self, hfirst, rfl⟩
    | true =>
      have hrest : entry ∈ rest := by
        rcases List.mem_cons.mp hentry with rfl | hrest
        · cases hfirst.symm.trans h
        · exact hrest
      obtain ⟨other, hother, hname, hchecked⟩ := ih hrest
      refine ⟨other, List.mem_cons_of_mem _ hother, hname, ?_⟩
      rw [hchecked]
      rfl

end Environment

def Call.definition? : Call → Option (String × String)
  | .updateEnv name value => some (name, value)
  | _ => none

def SameVariables (s t : NodeState σ) : Prop := t.env = s.env

instance : IsPreorder (NodeState σ) SameVariables where
  refl _ := rfl
  trans _ _ _ h h' := h'.trans h

namespace Node

variable {n : Node σ} {s t u : NodeState σ} {command : String} {opts : ExecOptions} {f : Fault}

section Definitions

lemma env_after (s : NodeState σ) (c : Call) :
    (n.after s c).env = s.env.defineAll c.definition?.toList := by
  have hsame : n.Respects SameVariables := n.respects_routine.mono fun _ _ h => h.env
  by_cases hdefines : ∃ name value, c = .updateEnv name value
  · obtain ⟨name, value, rfl⟩ := hdefines
    rfl
  · have hnone : c.definition? = none := by
      cases c with
      | updateEnv name value => exact absurd ⟨name, value, rfl⟩ hdefines
      | _ => rfl
    rw [hnone]
    exact hsame.call (fun _ => within_close fun _ _ => rfl) (fun _ _ _ _ _ _ _ => rfl) (fun _ _ _ => rfl)
      (fun name value h => absurd ⟨name, value, h⟩ hdefines) s

lemma env_afterAll (s : NodeState σ) (calls : List Call) :
    (n.afterAll s calls).env = s.env.defineAll (calls.filterMap Call.definition?) := by
  induction calls generalizing s with
  | nil => rfl
  | cons c rest ih =>
    change (n.afterAll (n.after s c) rest).env = _
    rw [ih, env_after, List.filterMap_cons]
    cases c.definition? with
    | none => rfl
    | some definition => rfl

end Definitions

section Ready

def HandsOver (n : Node σ) (sent : Option CommandRequest) (s t : NodeState σ) : Prop :=
  ∃ before, t.contacts = s.contacts ++ before ++ (sent.map Contact.run).toList ∧
    ∀ c ∈ before, c = .connect ∨ c = .run n.sudoQuestion

abbrev Readies (n : Node σ) : NodeState σ → NodeState σ → Prop := n.HandsOver none

lemma readies_of_eq (h : t.contacts = s.contacts) : n.Readies s t := ⟨[], by simp [h], nofun⟩

lemma HandsOver.after_readies {sent : Option CommandRequest} (h : n.Readies s t)
    (h' : n.HandsOver sent t u) : n.HandsOver sent s u := by
  obtain ⟨cs, ht, hcs⟩ := h
  obtain ⟨ds, hu, hds⟩ := h'
  refine ⟨cs ++ ds, ?_, List.forall_mem_append.mpr ⟨hcs, hds⟩⟩
  rw [hu, ht]
  simp

instance : IsPreorder (NodeState σ) n.Readies where
  refl _ := readies_of_eq rfl
  trans _ _ _ := .after_readies

lemma readies_connect : Within n.Readies n.connect :=
  within_connect fun _ _ => ⟨[.connect], by simp, by simp⟩

lemma readies_supportsSudo : Within n.Readies n.supportsSudo := by
  refine within_supportsSudo readies_connect (fun s => ?_) fun _ _ => readies_of_eq rfl
  exact ⟨[.run n.sudoQuestion], by simp [run_apply], by simp⟩

lemma readies_request (command : String) (opts : ExecOptions) :
    Within n.Readies (n.request command opts) :=
  within_request readies_supportsSudo command opts readies_connect

def granted (n : Node σ) (command : String) (opts : ExecOptions) (s : NodeState σ) : Except Fault Unit :=
  if n.usesSudo opts then
    (n.supportsSudo s).1.bind fun supported =>
      if supported then .ok ()
      else .error (.missingCapability "sudo" n.name ("cannot execute `" ++ command ++ "` with sudo"))
  else .ok ()

lemma prepare_fst (command : String) (opts : ExecOptions) (s : NodeState σ) :
    (n.prepare command opts s).1 =
      (n.granted command opts s).bind fun _ => n.lineOf (opts.ask command) := by
  unfold granted lineOf ExecOptions.ask Node.prepare usesSudo
  cases hroot : opts.asRoot || n.alwaysSudo with
  | false => rfl
  | true =>
    simp only [Bool.not_true, Bool.false_eq_true, if_false, if_true, bind_apply]
    rcases n.supportsSudo s with ⟨f | supported, t⟩
    · rfl
    · cases supported with
      | false => rfl
      | true =>
        cases opts.shell with
        | false => rfl
        | true =>
          cases hquote : Shell.quote command with
          | error f => simp [Except.bind, Except.map, hquote, bind_apply]
          | ok arg => simp [Except.bind, Except.map, hquote, bind_apply]

lemma invalidArgument_of_lineOf (h : n.lineOf (opts.ask command) = .error f) :
    ∃ message, f = .invalidArgument message := by
  unfold lineOf ExecOptions.ask at h
  split at h
  · simp only [Except.bind] at h
    split at h
    · cases hquote : Shell.quote command with
      | ok arg =>
        rw [hquote] at h
        cases h
      | error e =>
        rw [hquote] at h
        cases h
        exact Shell.invalidArgument_of_quote hquote
    · cases h
  · cases h

def readied (n : Node σ) (command : String) (opts : ExecOptions) (s : NodeState σ) : Except Fault Unit :=
  (n.connect s).1.bind fun _ => n.granted command opts (n.connect s).2

/-- A command whose variables cannot be sent is refused for that, or for a reason that comes up earlier. -/
inductive Refused (n : Node σ) (command : String) (opts : ExecOptions) (s : NodeState σ) (f : Fault) :
    Fault → Prop where
  | unready {g : Fault} (hready : n.readied command opts s = .error g) : Refused n command opts s f g
  | unwritable {g : Fault} (hready : n.readied command opts s = .ok ())
      (hline : n.lineOf (opts.ask command) = .error g) : Refused n command opts s f g
  | unmerged (hready : n.readied command opts s = .ok ()) : Refused n command opts s f f

lemma refused_request (command : String) (h : mergedEnv opts s = .error f) :
    ∃ g t, n.request command opts s = (.error g, t) ∧ n.Refused command opts s f g := by
  have hconnected := n.respects_routine.connect s
  unfold Node.request
  rw [bind_apply]
  rcases hconnect : n.connect s with ⟨e | ⟨⟩, u⟩
  · exact ⟨e, u, rfl, .unready (by rw [readied, hconnect]; rfl)⟩
  · have hready : n.readied command opts s = n.granted command opts u := by rw [readied, hconnect]; rfl
    have hline := prepare_fst (n := n) command opts u
    have hprepared := within_prepare n.respects_routine.supportsSudo command opts u
    rw [← hready] at hline
    rw [hconnect] at hconnected
    dsimp only
    rw [bind_apply]
    rcases hprepare : n.prepare command opts u with ⟨e | line, v⟩
    · rw [hprepare] at hline
      refine ⟨e, v, rfl, ?_⟩
      cases hgranted : n.readied command opts s with
      | error g =>
        rw [hgranted] at hline
        cases hline
        exact .unready hgranted
      | ok _ =>
        rw [hgranted] at hline
        exact .unwritable hgranted hline.symm
    · rw [hprepare] at hline hprepared
      have henv : v.env = s.env := hprepared.env.trans hconnected.env
      have hunmerged : mergedEnv opts v = .error f := by rw [← h, mergedEnv, mergedEnv, henv]
      dsimp only
      rw [bind_of_ok (get_apply v), hunmerged, bind_of_error (liftM_apply _ v)]
      refine ⟨f, v, rfl, ?_⟩
      cases hgranted : n.readied command opts s with
      | error g =>
        rw [hgranted] at hline
        cases hline
      | ok _ => exact .unmerged hgranted

lemma execute_of_unmerged (command : String) (h : mergedEnv opts s = .error f) :
    n.Readies s (n.execute command opts s).2 ∧
      ∃ g, (n.execute command opts s).1 = .error g ∧ n.Refused command opts s f g := by
  have hreadies := readies_request (n := n) command opts s
  obtain ⟨g, t, hrequest, hrefused⟩ := refused_request (n := n) command h
  rw [hrequest] at hreadies
  rw [execute_eq, bind_of_error hrequest]
  exact ⟨hreadies, g, rfl, hrefused⟩

lemma Refused.eq_of_unready {g e : Fault} (h : n.Refused command opts s f g)
    (hready : n.readied command opts s = .error e) : g = e := by
  cases h with
  | unready h => exact Except.error.inj (h.symm.trans hready)
  | unwritable h _ => cases h.symm.trans hready
  | unmerged h => cases h.symm.trans hready

lemma Refused.invalidArgument {g : Fault} {m : String}
    (h : n.Refused command opts s (.invalidArgument m) g) (hready : n.readied command opts s = .ok ()) :
    ∃ message, g = .invalidArgument message := by
  cases h with
  | unready h => cases h.symm.trans hready
  | unwritable _ hline => exact invalidArgument_of_lineOf hline
  | unmerged _ => exact ⟨m, rfl⟩

end Ready

section Sent

def SendsWith (n : Node σ) (command : String) (opts : ExecOptions) (env : Environment)
    (s t : NodeState σ) (sent : Option CommandRequest) : Prop :=
  n.HandsOver sent s t ∧ ∀ q ∈ sent, q.env = env ∧ n.lineOf (opts.ask command) = .ok q.command

lemma sendsWith_none {env : Environment} (h : n.Readies s t) : n.SendsWith command opts env s t none :=
  ⟨h, nofun⟩

lemma sendsWith_execute (command : String) (opts : ExecOptions) (s : NodeState σ) :
    ∃ sent, n.SendsWith command opts (s.env.defineAll opts.env) s (n.execute command opts s).2 sent ∧
      (sent = none → ∀ r, (n.execute command opts s).1 ≠ .ok r) := by
  have hreadies := readies_request (n := n) command opts s
  have hline := (hands_request (n := n) command opts s).2
  rw [execute_eq]
  rcases hrequest : n.request command opts s with ⟨f | q, u⟩
  · rw [hrequest] at hreadies
    rw [bind_of_error hrequest]
    exact ⟨none, sendsWith_none hreadies, fun _ => nofun⟩
  · rw [hrequest] at hreadies hline
    obtain ⟨logs, hsend⟩ := n.send_apply opts q u
    rw [bind_of_ok hrequest, hsend]
    refine ⟨some q, ⟨HandsOver.after_readies hreadies ⟨[], by simp, nofun⟩, ?_⟩, nofun⟩
    rintro _ ⟨⟩
    exact ⟨eq_of_mergedEnv (mergedEnv_of_request hrequest), hline q rfl⟩

lemma sendsWith_executeCached (command : String) (opts : ExecOptions) (s : NodeState σ) :
    ∃ sent, n.SendsWith command opts (s.env.defineAll opts.env) s (n.executeCached command opts s).2
      sent := by
  obtain ⟨sent, hsends, -⟩ := sendsWith_execute (n := n) command opts s
  have hcases := n.executeCached_cases command opts s
  generalize n.executeCached command opts s = out at hcases ⊢
  cases hcases with
  | refused _ => exact ⟨none, sendsWith_none (refl s)⟩
  | served _ _ => exact ⟨none, sendsWith_none (refl s)⟩
  | failed _ _ hrun =>
    rw [hrun] at hsends
    exact ⟨sent, hsends⟩
  | ran _ _ hrun =>
    rw [hrun] at hsends
    exact ⟨sent, hsends⟩

lemma executeCached_of_unmerged (h : mergedEnv opts s = .error f) :
    n.executeCached command opts s = (.error f, s) := by
  have hcases := n.executeCached_cases command opts s
  generalize n.executeCached command opts s = out at hcases ⊢
  cases hcases with
  | refused hmerged =>
    cases hmerged.symm.trans h
    rfl
  | served hmerged _ => cases hmerged.symm.trans h
  | failed hmerged _ _ => cases hmerged.symm.trans h
  | ran hmerged _ _ => cases hmerged.symm.trans h

end Sent

/-- After any calls on a new node, a command that is sent carries each name that was defined for the node
or by its options once, in the order of the first definitions and with the value that the options give it
last, or else with the last one of the node. A name that is not portable keeps the command from being
sent. If its result may be taken from the store, nothing is sent at all and the name is blamed; otherwise
the node is connected and asked for sudo first, and what fails there is told instead. -/
theorem command_carries_merged_variables (n : Node σ) (machine : σ) (os : Option Os) (calls : List Call)
    (command : String) (opts : ExecOptions) :
    let s := n.afterAll { machine, os } calls
    ∃ env, Environment.Merges (calls.filterMap Call.definition?) opts.env env ∧
      (∃ sent, n.SendsWith command opts env s (n.execute command opts s).2 sent ∧
        (sent = none → ∀ r, (n.execute command opts s).1 ≠ .ok r)) ∧
      (∃ sent, n.SendsWith command opts env s (n.executeCached command opts s).2 sent) ∧
      ((∃ name ∈ Environment.names env, Shell.isPortableName name.toList = false) →
        (∃ name ∈ Environment.names env, Shell.isPortableName name.toList = false ∧
          n.executeCached command opts s = (.error (Shell.unportable name), s)) ∧
        n.Readies s (n.execute command opts s).2 ∧
        (∀ f, n.readied command opts s = .error f → (n.execute command opts s).1 = .error f) ∧
        (n.readied command opts s = .ok () →
          ∃ message, (n.execute command opts s).1 = .error (.invalidArgument message))) := by
  intro s
  have henv : s.env = Environment.defineAll [] (calls.filterMap Call.definition?) := env_afterAll _ calls
  refine ⟨s.env.defineAll opts.env, henv ▸ Environment.merges_defineAll _ _,
    sendsWith_execute command opts s, sendsWith_executeCached command opts s, ?_⟩
  rintro ⟨name, hname, hunportable⟩
  obtain ⟨entry, hentry, rfl⟩ := List.mem_map.mp hname
  obtain ⟨first, hmem, hfirst, hmerged⟩ := Environment.checked_of_mem hentry hunportable
  obtain ⟨hreadies, g, hexecute, hrefused⟩ := execute_of_unmerged (n := n) command hmerged
  refine ⟨⟨first.1, List.mem_map_of_mem hmem, hfirst, executeCached_of_unmerged hmerged⟩, hreadies, ?_,
    ?_⟩
  · intro e hready
    rw [hexecute, hrefused.eq_of_unready hready]
  · intro hready
    obtain ⟨message, rfl⟩ := hrefused.invalidArgument hready
    exact ⟨message, hexecute⟩

theorem command_carries_merged_variables_redefined :
    let n := Node.replying fun _ => ⟨0, "", ""⟩
    let calls : List Call :=
      [.updateEnv "A" "1", .execute "id" {}, .updateEnv "1B" "2", .updateEnv "A" "3"]
    let opts : ExecOptions := { env := [("C", "4"), ("A", "5")] }
    let s := n.afterAll { machine := () } calls
    s.env.defineAll opts.env = [("A", "5"), ("1B", "2"), ("C", "4")] ∧ n.readied "id" opts s = .ok () ∧
      ∃ message, (n.execute "id" opts s).1 = .error (.invalidArgument message) := by
  intro n calls opts s
  have hready : n.readied "id" opts s = .ok () := rfl
  obtain ⟨env, hmerges, -, -, hrefused⟩ := command_carries_merged_variables n () none calls "id" opts
  have hnames : Environment.names env = ["A", "1B", "C"] := hmerges.order
  obtain ⟨-, -, -, hinvalid⟩ := hrefused ⟨"1B", by simp [hnames], by decide⟩
  exact ⟨by decide, hready, hinvalid hready⟩

/-- Where the machine has no sudo or is not reached, the fault is not about the name. -/
theorem unportable_name_is_told_late :
    let n := Node.replying fun _ => ⟨1, "", ""⟩
    let opts : ExecOptions := { env := [("1A", "x")] }
    let rooted : ExecOptions := { opts with asRoot := true }
    (mergedEnv rooted ({ machine := () } : NodeState Unit) = .error (Shell.unportable "1A") ∧
      ∀ message, (n.execute "id" rooted { machine := () }).1 ≠ .error (.invalidArgument message)) ∧
    (mergedEnv opts ({ machine := 1 } : NodeState Nat) = .error (Shell.unportable "1A") ∧
      ∀ message, (reachedOnce.execute "id" opts { machine := 1 }).1 ≠ .error (.invalidArgument message)) := by
  intro n opts rooted
  have hrooted : (n.execute "id" rooted { machine := () }).1 =
      .error (.missingCapability "sudo" n.name "cannot execute `id` with sudo") := rfl
  have hdown : (reachedOnce.execute "id" opts { machine := 1 }).1 =
      .error (.transport "mock" "down") := rfl
  refine ⟨⟨rfl, fun message h => ?_⟩, rfl, fun message h => ?_⟩
  · cases hrooted.symm.trans h
  · cases hdown.symm.trans h

end Node

end HostProbe
