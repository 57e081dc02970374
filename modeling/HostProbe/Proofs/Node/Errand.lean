import HostProbe.Proofs.Node.Cache
import HostProbe.Proofs.Node.Exchange
import HostProbe.Proofs.Shell.Line

/-! Commands with the arguments of a caller. An errand says of which words its command is to be; a node
performs it if the machine can read exactly these words from what it is handed, also below sudo and the
shell that sudo starts, and if an argument that no shell can be given stops it before anything
happens. -/

namespace HostProbe

open Shell

variable {σ α : Type}

structure Errand where
  fixed : List String
  arguments : List String
  asRoot : Bool
  shell : Bool

def Shell.areFixedWords (words : List String) : Bool := !words.isEmpty && words.all isFixedWord

namespace Errand

def words (e : Errand) : List String := e.fixed ++ e.arguments

def line (e : Errand) : Except Fault String :=
  (e.arguments.mapM quote).map fun args => String.intercalate " " (e.fixed ++ args)

variable {e : Errand} {value command : String}

lemma line_of_find? (h : e.arguments.find? holdsNul = some value) : e.line = .error (refusal value) := by
  rw [line, mapM_quote_of_find? h]
  rfl

lemma exists_line (hplain : areFixedWords e.fixed) (h : ∀ a ∈ e.arguments, ¬ holdsNul a) :
    ∃ texts, e.line = .ok (String.intercalate " " texts) ∧ List.Forall₂ Writes texts e.words := by
  obtain ⟨args, hargs, hwrites⟩ := exists_mapM_quote h
  refine ⟨e.fixed ++ args, by rw [line, hargs]; rfl, ?_⟩
  have hfixed : ∀ word ∈ e.fixed, isFixedWord word :=
    List.all_eq_true.mp (Bool.and_eq_true_iff.mp hplain).2
  have hsame : List.Forall₂ Writes e.fixed e.fixed :=
    List.forall₂_same.mpr fun word hword => writes_fixed (hfixed word hword)
  exact List.rel_append hsame hwrites

lemma texts_of_line (hplain : areFixedWords e.fixed) (h : e.line = .ok command) :
    ∃ texts, command = String.intercalate " " texts ∧ List.Forall₂ Writes texts e.words := by
  cases hfind : e.arguments.find? holdsNul with
  | some value => cases (line_of_find? hfind).symm.trans h
  | none =>
    obtain ⟨texts, htexts, hwrites⟩ := exists_line hplain (List.find?_eq_none.mp hfind)
    exact ⟨texts, (Except.ok.inj (htexts.symm.trans h)).symm, hwrites⟩

end Errand

namespace Node

variable (n : Node σ)

def Reads (e : Errand) (line : String) : Prop :=
  if e.asRoot || n.alwaysSudo then
    if e.shell then ∃ inner, words? line = some ["sudo", "sh", "-c", inner] ∧ words? inner = some e.words
    else words? line = some ("sudo" :: e.words)
  else words? line = some e.words

structure Serves (asRoot : Bool) (s : NodeState σ) : Prop where
  reached : (n.connect s).1 = .ok ()
  supported : asRoot || n.alwaysSudo → (n.supportsSudo s).1 = .ok true
  env : ∃ env, s.env.checked = .ok env

variable {n} {e : Errand} {s t u : NodeState σ} {command line : String} {texts words : List String}
  {opts : ExecOptions} {xs ys : List Exchange}

section Line

lemma words?_sudo (h : List.Forall₂ Writes texts words) (hne : words ≠ []) :
    words? ("sudo " ++ String.intercalate " " texts) = some ("sudo" :: words) := by
  have hsudo : List.Forall₂ Writes ("sudo" :: texts) ("sudo" :: words) :=
    .cons (writes_fixed (by decide)) h
  rw [← words?_intercalate hsudo]
  cases h with
  | nil => exact absurd rfl hne
  | cons => simp

lemma words?_sudoShell {arg inner : String} (h : Writes arg inner) :
    words? ("sudo sh -c " ++ arg) = some ["sudo", "sh", "-c", inner] := by
  have hwrites : List.Forall₂ Writes ["sudo", "sh", "-c", arg] ["sudo", "sh", "-c", inner] :=
    .cons (writes_fixed (by decide)) (.cons (writes_fixed (by decide))
      (.cons (writes_fixed (by decide)) (.cons h .nil)))
  rw [← words?_intercalate hwrites]
  congr 1

lemma reads_of_lineOf (hroot : opts.asRoot = e.asRoot) (hshell : opts.shell = e.shell)
    (hplain : areFixedWords e.fixed) (htexts : List.Forall₂ Writes texts e.words)
    (h : n.lineOf (opts.ask (String.intercalate " " texts)) = .ok line) : n.Reads e line := by
  have hne : e.words ≠ [] := by
    have hfixed : e.fixed ≠ [] := by simpa using (Bool.and_eq_true_iff.mp hplain).1
    exact List.append_ne_nil_of_left_ne_nil hfixed _
  simp only [lineOf, ExecOptions.ask, hroot, hshell, Except.bind] at h
  rw [Reads]
  split at h
  · next hsudo =>
    rw [if_pos hsudo]
    split at h
    · next hshell =>
      rw [if_pos hshell]
      cases hquote : quote (String.intercalate " " texts) with
      | error f =>
        rw [hquote] at h
        cases h
      | ok arg =>
        -- The command is one word of the line, and is read once more by the shell below sudo.
        rw [hquote] at h
        cases h
        exact ⟨_, words?_sudoShell (writes_of_quote hquote), words?_intercalate htexts⟩
    · next hshell =>
      rw [if_neg hshell]
      cases h
      exact words?_sudo htexts hne
  · next hsudo =>
    rw [if_neg hsudo]
    cases h
    exact words?_intercalate htexts

lemma exists_lineOf (n : Node σ) (opts : ExecOptions) (h : ¬ holdsNul command) :
    ∃ line, n.lineOf (opts.ask command) = .ok line := by
  obtain ⟨arg, harg, -⟩ := exists_quote h
  simp only [lineOf, ExecOptions.ask, Except.bind, harg]
  cases opts.asRoot || n.alwaysSudo <;> cases opts.shell <;> exact ⟨_, rfl⟩

end Line

section Serves

lemma connect_ok (h : n.connect s = (.ok (), t)) :
    t.connection.done = true ∧ t.sudoSupported = s.sudoSupported ∧ t.env = s.env := by
  cases hd : s.connection.done with
  | true =>
    rw [n.connect_of_connected hd] at h
    cases h
    exact ⟨hd, rfl, rfl⟩
  | false =>
    rw [n.connect_of_not_connected hd] at h
    obtain ⟨hok, rfl⟩ := Prod.ext_iff.mp h
    exact ⟨congrArg Except.isOk hok, rfl, rfl⟩

lemma connect_congr (hconnection : t.connection = s.connection) (hmachine : t.machine = s.machine) :
    (n.connect t).1 = (n.connect s).1 ∧ (n.connect t).2.machine = (n.connect s).2.machine := by
  cases hd : s.connection.done with
  | true =>
    rw [n.connect_of_connected hd, n.connect_of_connected (hconnection ▸ hd)]
    exact ⟨rfl, hmachine⟩
  | false =>
    rw [n.connect_of_not_connected hd, n.connect_of_not_connected (hconnection ▸ hd), hmachine]
    exact ⟨rfl, rfl⟩

lemma supportsSudo_of_known {supported : Bool} (h : s.sudoSupported = some supported) :
    n.supportsSudo s = (.ok supported, s) := by
  rw [supportsSudo, bind_of_ok (get_apply s), h]
  rfl

lemma supportsSudo_of_unknown (h : s.sudoSupported = none) :
    (n.supportsSudo s).1 = (n.connect s).1.bind fun _ =>
      (n.transport.run ⟨"command -v sudo", true, none, [], n.timeoutMs⟩ (n.connect s).2.machine).1.map
        (·.exitCode == 0) := by
  rw [supportsSudo, bind_of_ok (get_apply s), h]
  dsimp only
  rw [bind_apply]
  rcases n.connect s with ⟨_ | _, t⟩
  · rfl
  · dsimp only [Except.bind]
    rw [bind_apply, run_apply]
    rcases (n.transport.run _ t.machine).1 with _ | output <;> rfl

lemma sudoSupported_of_ok {supported : Bool} (h : n.supportsSudo s = (.ok supported, t)) :
    t.sudoSupported = some supported := by
  cases hknown : s.sudoSupported with
  | some known =>
    rw [supportsSudo_of_known hknown] at h
    cases h
    exact hknown
  | none =>
    rw [supportsSudo, bind_of_ok (get_apply s), hknown] at h
    obtain ⟨-, s₁, -, h⟩ := bind_eq_ok h
    obtain ⟨output, s₂, -, h⟩ := bind_eq_ok h
    cases h
    rfl

lemma Serves.congr {asRoot : Bool} (h : n.Serves asRoot s) (hconnection : t.connection = s.connection)
    (hmachine : t.machine = s.machine) (hknown : t.sudoSupported = s.sudoSupported)
    (henv : t.env = s.env) : n.Serves asRoot t where
  reached := (connect_congr hconnection hmachine).1.trans h.reached
  supported hroot := by
    rw [← h.supported hroot]
    cases hsudo : s.sudoSupported with
    | some supported => rw [supportsSudo_of_known hsudo, supportsSudo_of_known (hknown.trans hsudo)]
    | none =>
      obtain ⟨hreached, hmachine'⟩ := connect_congr (n := n) hconnection hmachine
      rw [supportsSudo_of_unknown hsudo, supportsSudo_of_unknown (hknown.trans hsudo), hreached,
        hmachine']
  env := henv ▸ h.env

end Serves

section Served

lemma Serves.connect {asRoot : Bool} (h : n.Serves asRoot s) (hconnected : n.connect s = (.ok (), t)) :
    n.Serves asRoot t := by
  obtain ⟨hdone, hknown, henv⟩ := connect_ok hconnected
  refine ⟨by rw [n.connect_of_connected hdone], fun hroot => ?_, henv ▸ h.env⟩
  rw [← h.supported hroot]
  cases hsudo : s.sudoSupported with
  | some supported => rw [supportsSudo_of_known hsudo, supportsSudo_of_known (hknown.trans hsudo)]
  | none =>
    rw [supportsSudo_of_unknown hsudo, supportsSudo_of_unknown (hknown.trans hsudo), hconnected,
      n.connect_of_connected hdone]

lemma Serves.prepare (h : n.Serves opts.asRoot s) (hline : n.lineOf (opts.ask command) = .ok line) :
    ∃ t, n.prepare command opts s = (.ok line, t) := by
  unfold lineOf ExecOptions.ask at hline
  unfold Node.prepare usesSudo
  cases hroot : opts.asRoot || n.alwaysSudo with
  | false =>
    simp only [hroot, Bool.false_eq_true, if_false] at hline
    cases hline
    exact ⟨s, rfl⟩
  | true =>
    have hsupported : n.supportsSudo s = (.ok true, (n.supportsSudo s).2) :=
      Prod.ext (h.supported hroot) rfl
    simp only [hroot, if_true, Except.bind] at hline
    refine ⟨(n.supportsSudo s).2, (bind_of_ok hsupported _).trans ?_⟩
    cases hshell : opts.shell with
    | false =>
      simp only [hshell, Bool.false_eq_true, if_false] at hline
      cases hline
      rfl
    | true =>
      simp only [hshell, if_true] at hline
      cases hquote : quote command with
      | error f =>
        rw [hquote] at hline
        cases hline
      | ok arg =>
        rw [hquote] at hline
        cases hline
        rfl

lemma Serves.request (h : n.Serves opts.asRoot s) (henv : opts.env = [])
    (hline : n.lineOf (opts.ask command) = .ok line) :
    ∃ q t, n.request command opts s = (.ok q, t) ∧ q.command = line := by
  have hconnect : n.connect s = (.ok (), (n.connect s).2) := Prod.ext h.reached rfl
  obtain ⟨t, hprepare⟩ := (h.connect hconnect).prepare hline
  obtain ⟨env, hchecked⟩ := h.env
  have hprepared := within_prepare n.respects_kept.supportsSudo command opts (n.connect s).2
  rw [hprepare] at hprepared
  have hmerged : mergedEnv opts t = .ok env := by
    rw [mergedEnv, henv, hprepared.env, (n.respects_kept.connect s).env]
    exact hchecked
  refine ⟨⟨line, opts.shell, effectiveDir opts t, env, opts.timeoutMs.getD n.timeoutMs⟩, t, ?_, rfl⟩
  rw [Node.request, bind_of_ok hconnect, bind_of_ok hprepare, bind_of_ok (get_apply t), hmerged,
    bind_of_ok (liftM_apply _ t), bind_of_ok (get_apply t)]
  rfl

lemma sudoSupported_of_prepare (h : n.prepare command opts s = (.ok line, t))
    (hroot : opts.asRoot || n.alwaysSudo) : t.sudoSupported = some true := by
  unfold Node.prepare usesSudo at h
  rw [hroot] at h
  obtain ⟨supported, u, hsupported, h⟩ := bind_eq_ok h
  have hknown := sudoSupported_of_ok hsupported
  cases supported with
  | false => cases h
  | true =>
    suffices t = u from this ▸ hknown
    cases hshell : opts.shell with
    | false =>
      simp only [hshell] at h
      exact (Prod.ext_iff.mp h).2.symm
    | true =>
      simp only [hshell] at h
      obtain ⟨arg, w, harg, h⟩ := bind_eq_ok h
      exact (Prod.ext_iff.mp h).2.symm.trans (Prod.ext_iff.mp harg).2.symm

lemma sudoSupported_of_request {q : CommandRequest} (h : n.request command opts s = (.ok q, t))
    (hroot : opts.asRoot || n.alwaysSudo) : t.sudoSupported = some true := by
  obtain ⟨-, u, -, h⟩ := bind_eq_ok h
  obtain ⟨line, v, hline, h⟩ := bind_eq_ok h
  have ht : t = v := by
    rw [bind_of_ok (get_apply v)] at h
    obtain ⟨env, w, hchecked, h⟩ := bind_eq_ok h
    rw [bind_of_ok (get_apply w)] at h
    exact (Prod.ext_iff.mp h).2.symm.trans (Prod.ext_iff.mp hchecked).2.symm
  exact ht ▸ sudoSupported_of_prepare hline hroot

lemma sudoSupported_of_execute {r : ExecutionResult} (h : n.execute command opts s = (.ok r, t))
    (hroot : opts.asRoot || n.alwaysSudo) : t.sudoSupported = some true := by
  rw [execute_eq] at h
  obtain ⟨q, u, hrequest, hsend⟩ := bind_eq_ok h
  have hknown : t.sudoSupported = u.sudoSupported := by
    obtain ⟨logs, hlogs⟩ := n.send_apply opts q u
    rw [hlogs] at hsend
    exact congrArg (fun out => out.2.sudoSupported) hsend.symm
  exact hknown.trans (sudoSupported_of_request hrequest hroot)

lemma serves_of_execute {r : ExecutionResult} (h : n.execute command opts s = (.ok r, t))
    (henv : ∃ env, s.env.checked = .ok env) : n.Serves opts.asRoot t := by
  have hdone : t.connection.done = true := by
    simpa [h] using (n.respects_kept.opens_execute command opts s).2 r (by rw [h])
  have hkept : t.env = s.env := by simpa [h] using (n.respects_kept.execute command opts s).env
  refine ⟨by rw [n.connect_of_connected hdone], fun hroot => ?_, hkept ▸ henv⟩
  rw [supportsSudo_of_known (sudoSupported_of_execute h hroot)]

end Served

section Sends

def Hands (n : Node σ) (allowed : String → Prop) (s t : NodeState σ) : Prop :=
  ∃ xs, n.Leads s t xs ∧ ∀ x ∈ xs, allowed x.request.command

def Sends (n : Node σ) (allowed final : String → Prop) (s t : NodeState σ) : Prop :=
  ∃ xs x, n.Leads s t (xs ++ [x]) ∧ (∀ y ∈ xs, allowed y.request.command) ∧ final x.request.command

def asksSudo (line : String) : Prop := line = "command -v sudo"

variable {allowed final : String → Prop}

lemma Hands.trans (h : n.Hands allowed s t) (h' : n.Hands allowed t u) : n.Hands allowed s u := by
  obtain ⟨xs, hxs, hallowed⟩ := h
  obtain ⟨ys, hys, hallowed'⟩ := h'
  exact ⟨xs ++ ys, hxs.trans hys, List.forall_mem_append.mpr ⟨hallowed, hallowed'⟩⟩

lemma Hands.mono {allowed' : String → Prop} (h : n.Hands allowed s t)
    (hallowed : ∀ line, allowed line → allowed' line) : n.Hands allowed' s t := by
  obtain ⟨xs, hleads, hxs⟩ := h
  exact ⟨xs, hleads, fun x hx => hallowed _ (hxs x hx)⟩

lemma Hands.of_leads (h : n.Leads s t []) : n.Hands allowed s t := ⟨[], h, by simp⟩

lemma Sends.mono {final' : String → Prop} (h : n.Sends allowed final s t)
    (hfinal : ∀ line, final line → final' line) : n.Sends allowed final' s t := by
  obtain ⟨xs, x, hleads, hxs, hx⟩ := h
  exact ⟨xs, x, hleads, hxs, hfinal _ hx⟩

lemma Sends.trans_leads (h : n.Sends allowed final s t) (h' : n.Leads t u []) :
    n.Sends allowed final s u := by
  obtain ⟨xs, x, hleads, hxs, hx⟩ := h
  exact ⟨xs, x, by simpa using hleads.trans h', hxs, hx⟩

lemma Sends.after {allowed' : String → Prop} (h : n.Sends allowed final t u)
    (h' : n.Hands allowed' s t) (hallowed : ∀ line, allowed line → allowed' line) :
    n.Sends allowed' final s u := by
  obtain ⟨xs, x, hleads, hxs, hx⟩ := h
  obtain ⟨ys, hleads', hys⟩ := h'
  refine ⟨ys ++ xs, x, by simpa using hleads'.trans hleads, ?_, hx⟩
  exact List.forall_mem_append.mpr ⟨hys, fun y hy => hallowed _ (hxs y hy)⟩

lemma Sends.hands {allowed' : String → Prop} (h : n.Sends allowed final s t)
    (hallowed : ∀ line, allowed line → allowed' line) (hfinal : ∀ line, final line → allowed' line) :
    n.Hands allowed' s t := by
  obtain ⟨xs, x, hleads, hxs, hx⟩ := h
  refine ⟨xs ++ [x], hleads, List.forall_mem_append.mpr ⟨fun y hy => hallowed _ (hxs y hy), ?_⟩⟩
  simpa using hfinal _ hx

lemma leads_send (opts : ExecOptions) (q : CommandRequest) (s : NodeState σ) :
    n.Leads s (n.send opts q s).2 [⟨q, (n.transport.run q s.machine).1⟩] := by
  obtain ⟨logs, hsend⟩ := n.send_apply opts q s
  rw [hsend]
  exact ⟨[.run q], rfl, rfl, rfl⟩

lemma hands_request (command : String) (opts : ExecOptions) (s : NodeState σ) :
    n.Hands asksSudo s (n.request command opts s).2 ∧ ∀ q, (n.request command opts s).1 = .ok q →
      n.lineOf (opts.ask command) = .ok q.command := by
  have hemits : Emits n id [] _ (n.request command opts) := emits_request command opts
  obtain ⟨-, xs, hleads, hpermits, hok⟩ := hemits s
  exact ⟨⟨xs, hleads, fun x hx => (hpermits x hx).resolve_right (by simp)⟩, hok⟩

lemma sends_execute {q : CommandRequest} (h : n.request command opts s = (.ok q, t)) :
    n.Sends asksSudo (fun line => n.lineOf (opts.ask command) = .ok line) s
      (n.execute command opts s).2 := by
  obtain ⟨hrequest, hok⟩ := hands_request (n := n) command opts s
  rw [h] at hrequest hok
  obtain ⟨ys, hleads, hasked⟩ := hrequest
  rw [execute_eq, bind_of_ok h]
  exact ⟨ys, _, hleads.trans (leads_send opts q t), hasked, hok q rfl⟩

lemma hands_or_sends_execute (command : String) (opts : ExecOptions) (s : NodeState σ) :
    (n.Hands asksSudo s (n.execute command opts s).2 ∧ ∀ r, (n.execute command opts s).1 ≠ .ok r) ∨
      n.Sends asksSudo (fun line => n.lineOf (opts.ask command) = .ok line) s
        (n.execute command opts s).2 := by
  have hrequest := (hands_request (n := n) command opts s).1
  rcases h : n.request command opts s with ⟨f | q, t⟩
  · rw [h] at hrequest
    rw [execute_eq, bind_of_error h]
    exact .inl ⟨hrequest, nofun⟩
  · exact .inr (sends_execute h)

lemma Serves.sends_execute (h : n.Serves opts.asRoot s) (henv : opts.env = [])
    (hline : n.lineOf (opts.ask command) = .ok line) :
    n.Sends asksSudo (fun line => n.lineOf (opts.ask command) = .ok line) s
      (n.execute command opts s).2 := by
  obtain ⟨q, t, hrequest, -⟩ := h.request henv hline
  exact Node.sends_execute hrequest

end Sends

/-- A node performs an errand by an operation: it refuses an argument that holds a NUL, before anything
happens; else it hands over one line that reads as the errand, unless it fails before that, or has no
need to in a state that is not fresh. -/
structure Performs (n : Node σ) (e : Errand) (fresh : NodeState σ → Prop) (a : NodeM σ α) : Prop where
  refused : ∀ value, e.arguments.find? holdsNul = some value → a = throw (refusal value)
  hands : ∀ s, n.Hands asksSudo s (a s).2 ∨ n.Sends asksSudo (n.Reads e) s (a s).2
  succeeds : ∀ s v, fresh s → (a s).1 = .ok v → n.Sends asksSudo (n.Reads e) s (a s).2
  serves : ∀ s, fresh s → (∀ value ∈ e.arguments, ¬ holdsNul value) → n.Serves e.asRoot s →
    n.Sends asksSudo (n.Reads e) s (a s).2

lemma Performs.step {fresh : NodeState σ → Prop} {a : NodeM σ α} (h : n.Performs e fresh a)
    (hfresh : fresh s) (hnul : ∀ value ∈ e.arguments, ¬ holdsNul value) :
    n.Sends asksSudo (n.Reads e) s (a s).2 ∨
      n.Hands asksSudo s (a s).2 ∧ ¬ n.Serves e.asRoot s ∧ ∀ v, (a s).1 ≠ .ok v := by
  by_cases hsends : n.Sends asksSudo (n.Reads e) s (a s).2
  · exact .inl hsends
  · exact .inr ⟨(h.hands s).resolve_right hsends, fun hserves => hsends (h.serves s hfresh hnul hserves),
      fun v hv => hsends (h.succeeds s v hfresh hv)⟩

section Performs

variable {β : Type} {fresh : NodeState σ → Prop} {deliver : String → NodeM σ β}
  {post : β → Except Fault α}

structure Delivers (n : Node σ) (opts : ExecOptions) (command : String) (fresh : NodeState σ → Prop)
    (a : NodeM σ β) : Prop where
  hands : ∀ s, n.Hands asksSudo s (a s).2 ∨
    n.Sends asksSudo (fun line => n.lineOf (opts.ask command) = .ok line) s (a s).2
  succeeds : ∀ s r, fresh s → (a s).1 = .ok r →
    n.Sends asksSudo (fun line => n.lineOf (opts.ask command) = .ok line) s (a s).2
  serves : ∀ s line, fresh s → n.Serves opts.asRoot s → n.lineOf (opts.ask command) = .ok line →
    n.Sends asksSudo (fun line => n.lineOf (opts.ask command) = .ok line) s (a s).2

lemma Delivers.imp {fresh' : NodeState σ → Prop} {a : NodeM σ β} (h : n.Delivers opts command fresh a)
    (hfresh : ∀ s, fresh' s → fresh s) : n.Delivers opts command fresh' a where
  hands := h.hands
  succeeds s r hs := h.succeeds s r (hfresh s hs)
  serves s line hs := h.serves s line (hfresh s hs)

lemma delivers_execute (n : Node σ) (henv : opts.env = []) (command : String) :
    n.Delivers opts command (fun _ => True) (n.execute command opts) where
  hands s := (hands_or_sends_execute command opts s).imp_left And.left
  succeeds s r _ hr := (hands_or_sends_execute command opts s).resolve_left fun h => h.2 r hr
  serves _ _ _ hserves hline := hserves.sends_execute henv hline

lemma Delivers.logged {a : NodeM σ β} (h : n.Delivers opts command (fun _ => True) a) (level : LogLevel)
    (message : String) (fields : List (String × String)) :
    n.Delivers opts command (fun _ => True) (do NodeM.log level message fields; a) where
  hands s := h.hands { s with logs := s.logs ++ [⟨level, message, fields⟩] }
  succeeds s := h.succeeds { s with logs := s.logs ++ [⟨level, message, fields⟩] }
  serves s line hs hserves := h.serves { s with logs := s.logs ++ [⟨level, message, fields⟩] } line hs
    (hserves.congr rfl rfl rfl rfl)

def Unanswered (n : Node σ) (opts : ExecOptions) (command : String) (s : NodeState σ) : Prop :=
  ∀ env, mergedEnv opts s = .ok env → n.recalled command opts s env = none

lemma leads_executeCached (command : String) (opts : ExecOptions) (s : NodeState σ) :
    n.Leads (n.execute command opts s).2 (n.executeCached command opts s).2 [] ∧
        (n.executeCached command opts s).1 = (n.execute command opts s).1 ∨
      n.Leads s (n.executeCached command opts s).2 [] ∧ (n.Unanswered opts command s →
        ∃ f, mergedEnv opts s = .error f ∧ (n.executeCached command opts s).1 = .error f) := by
  generalize hout : n.executeCached command opts s = out
  cases hout ▸ n.executeCached_cases command opts s with
  | refused hmerged => exact .inr ⟨leads_of_eq rfl rfl, fun _ => ⟨_, hmerged, rfl⟩⟩
  | served hmerged hrecalled =>
    exact .inr ⟨leads_of_eq rfl rfl, fun hfresh => nomatch (hfresh _ hmerged).symm.trans hrecalled⟩
  | failed hmerged hnew hrun => exact .inl (hrun ▸ ⟨leads_of_eq rfl rfl, rfl⟩)
  | ran hmerged hnew hrun => exact .inl (hrun ▸ ⟨leads_of_eq rfl rfl, rfl⟩)

lemma delivers_executeCached (n : Node σ) (henv : opts.env = []) (command : String) :
    n.Delivers opts command (n.Unanswered opts command) (n.executeCached command opts) := by
  have hexecute := n.delivers_execute henv command
  refine ⟨fun s => ?_, fun s r hfresh hr => ?_, fun s line hfresh hserves hline => ?_⟩
  · obtain ⟨hleads, -⟩ | ⟨hleads, -⟩ := leads_executeCached (n := n) command opts s
    · exact (hexecute.hands s).imp (·.trans (.of_leads hleads)) (·.trans_leads hleads)
    · exact .inl (.of_leads hleads)
  · obtain ⟨hleads, hout⟩ | ⟨-, hrefused⟩ := leads_executeCached (n := n) command opts s
    · exact (hexecute.succeeds s r trivial (hout ▸ hr)).trans_leads hleads
    · obtain ⟨f, -, hf⟩ := hrefused hfresh
      cases hf.symm.trans hr
  · obtain ⟨hleads, -⟩ | ⟨-, hrefused⟩ := leads_executeCached (n := n) command opts s
    · exact (hexecute.serves s line trivial hserves hline).trans_leads hleads
    · obtain ⟨f, hmerged, -⟩ := hrefused hfresh
      obtain ⟨env, hchecked⟩ := hserves.env
      rw [mergedEnv, henv] at hmerged
      cases hmerged.symm.trans hchecked

def runErrand (e : Errand) (deliver : String → NodeM σ β) (post : β → Except Fault α) : NodeM σ α := do
  let command ← e.line
  let r ← deliver command
  post r

lemma runErrand_apply (hline : e.line = .ok command) (s : NodeState σ) :
    runErrand e deliver post s = ((deliver command s).1.bind post, (deliver command s).2) := by
  rw [runErrand, hline, bind_of_ok (liftM_apply _ s), bind_apply]
  rcases deliver command s with ⟨_ | r, t⟩ <;> rfl

lemma runErrand_of_error {f : Fault} (hline : e.line = .error f) :
    runErrand e deliver post = throw f := by
  rw [runErrand, hline]
  rfl

lemma performs_runErrand (hplain : areFixedWords e.fixed) (hroot : opts.asRoot = e.asRoot)
    (hshell : opts.shell = e.shell)
    (h : ∀ command, e.line = .ok command → n.Delivers opts command fresh (deliver command))
    (post : β → Except Fault α) : n.Performs e fresh (runErrand e deliver post) := by
  have hreads : ∀ command, e.line = .ok command → ∀ line, n.lineOf (opts.ask command) = .ok line →
      n.Reads e line := by
    intro command hcommand line hline
    obtain ⟨texts, rfl, htexts⟩ := Errand.texts_of_line hplain hcommand
    exact reads_of_lineOf hroot hshell hplain htexts hline
  refine ⟨fun value hvalue => ?_, fun s => ?_, fun s v hfresh hv => ?_, fun s hfresh hnul hserves => ?_⟩
  · exact runErrand_of_error (Errand.line_of_find? hvalue)
  · cases hcommand : e.line with
    | error f =>
      rw [runErrand_of_error hcommand]
      exact .inl (.of_leads (leads_of_eq rfl rfl))
    | ok command =>
      rw [runErrand_apply hcommand]
      exact ((h command hcommand).hands s).imp_right fun hsends => hsends.mono (hreads command hcommand)
  · cases hcommand : e.line with
    | error f =>
      rw [runErrand_of_error hcommand] at hv
      cases hv
    | ok command =>
      rw [runErrand_apply hcommand] at hv ⊢
      rcases hrun : (deliver command s).1 with f | r
      · rw [hrun] at hv
        cases hv
      · exact ((h command hcommand).succeeds s r hfresh hrun).mono (hreads command hcommand)
  · obtain ⟨texts, hcommand, hwrites⟩ := Errand.exists_line hplain hnul
    obtain ⟨line, hline⟩ := exists_lineOf n opts (noNul_intercalate hwrites)
    rw [runErrand_apply hcommand]
    exact ((h _ hcommand).serves s line hfresh (hroot ▸ hserves) hline).mono (hreads _ hcommand)

end Performs

end Node

end HostProbe
