import HostProbe.Machine.Local
import HostProbe.Proofs.Shell.Sequence
import HostProbe.Proofs.Ssh.Words

/-! What a remote shell does with the line of a request whose directory it cannot enter. The command waits
for the directory only as long as no variable stands between the two. -/

namespace HostProbe

open Shell

variable {name value arg dir line text : String} {env : List (String × String)} {r : CommandRequest}

namespace Shell

lemma stands_of_quote (h : quote value = .ok arg) : Stands arg.toList := by
  rw [quote] at h
  split at h
  · next q hquote =>
    cases h
    simpa using stands_quote hquote
  · cases h

lemma stands_definition (hname : IsPortable name) (hvalue : quote value = .ok arg) :
    Stands (name ++ "=" ++ arg).toList := by
  have hchars : Stands name.toList :=
    stands_inner hname.ne_nil fun c hc => isInner_of_isBareChar (isBareChar_of_mem_portable hname c hc)
  have hstart : Stands (name.toList ++ ['=']) := hchars.append (stands_inner (by simp) (List.all_eq_true.mp (by decide)))
  simpa using hstart.append (stands_of_quote hvalue)

def GoesTo (dir text : String) : Prop := words? text = some ["cd", dir]

def Defines (v : String × String) (text : String) : Prop :=
  words? text = some ["export", v.1 ++ "=" ++ v.2]

lemma goesTo_of_quote (h : quote dir = .ok arg) : GoesTo dir ("cd " ++ arg ++ " ") := by
  have hcd : Fronts "cd " ["cd"] := fronts_fixed "cd" rfl
  rw [GoesTo, String.append_assoc]
  exact (hcd.append (fronts_word (writes_of_quote h).spells)).words?

lemma holds_goesTo (h : quote dir = .ok arg) :
    Holds .always ("cd " ++ arg ++ " && ") [⟨.always, "cd " ++ arg ++ " "⟩] .ifOk :=
  holds_and (a := "cd") (stands_inner (by simp) (List.all_eq_true.mp (by decide))) (stands_of_quote h) .always

lemma defines_of_quote (hname : IsPortable name) (hvalue : quote value = .ok arg) :
    Defines (name, value) ("export " ++ (name ++ "=" ++ arg)) := by
  have hexport : Fronts "export " ["export"] := fronts_fixed "export" rfl
  have hword := (spells_definition hname hvalue).words?
  simpa [Defines, hword] using hexport (name ++ "=" ++ arg)

lemma holds_defines (hname : IsPortable name) (hvalue : quote value = .ok arg) (joint : Joint) :
    Holds joint ("export " ++ name ++ "=" ++ arg ++ "; ") [⟨joint, "export " ++ (name ++ "=" ++ arg)⟩]
      .always := by
  have hexport : Stands "export".toList := stands_inner (by simp) (List.all_eq_true.mp (by decide))
  simpa [String.append_assoc] using holds_semicolon hexport (stands_definition hname hvalue) joint

end Shell

namespace SshTarget

lemma Exports.holds (h : Exports env text) : ∃ texts, List.Forall₂ Defines env texts ∧
    Holds .always text (texts.map (Shell.Part.mk .always)) .always := by
  induction h with
  | nil => exact ⟨[], .nil, holds_nil⟩
  | cons hname hvalue _ ih =>
    obtain ⟨texts, htexts, hholds⟩ := ih
    exact ⟨_, .cons (defines_of_quote hname hvalue) htexts,
      (holds_defines hname hvalue .always).append hholds⟩

variable {σ : Type} {exec : String → σ → Bool × σ} {s : σ}

lemma runParts_of_exports (h : Exports env text) (hne : env ≠ []) (command : String) (s : σ) :
    ∃ texts, List.Forall₂ Defines env.tail texts ∧
      (runParts exec (partsAfter .ifOk (text ++ command)) (false, s)).2 =
        (runLine exec command (texts.foldl (fun s text => (exec text s).2) s)).2 := by
  cases h with
  | nil => exact absurd rfl hne
  | cons hname hvalue hrest =>
    obtain ⟨texts, htexts, hholds⟩ := hrest.holds
    refine ⟨texts, htexts, ?_⟩
    rw [(holds_defines hname hvalue .ifOk).append hholds, List.append_assoc, runParts_append,
      runParts_append]
    have hskip : ∀ first, runParts exec [⟨.ifOk, first⟩] (false, s) = (false, s) := fun _ => rfl
    rw [hskip, runLine, ← runParts_always texts (false, s)]
    exact runParts_snd command _ true _

lemma run_of_missing_directory {τ : Type} {l : Launcher τ} {t : τ} (hdir : r.dir = some dir)
    (h : ∀ c, c.dir = some dir → ∃ reason, l.start c t = (.notStarted reason, t)) :
    ∃ f, LocalMachine.run l r t = (.error f, t) := by
  rw [LocalMachine.run]
  cases hcall : LocalMachine.callOf r with
  | error f => exact ⟨f, rfl⟩
  | ok c =>
    have hthere : c.dir = some dir := by
      rw [LocalMachine.callOf] at hcall
      cases hprogram : LocalMachine.programOf r with
      | error f =>
        rw [hprogram] at hcall
        cases hcall
      | ok called =>
        rw [hprogram] at hcall
        cases hcall
        exact hdir
    obtain ⟨reason, hstart⟩ := h c hthere
    simp only [Launcher.call, hstart]
    split
    · exact ⟨_, rfl⟩
    · exact ⟨_, rfl⟩

/-- What a shell does that cannot enter the directory. Without variables it leaves out what waits for the
directory; with variables it leaves out the first definition and then runs the whole command, somewhere
else. Our own machine does not start the command. -/
theorem runLine_of_missing_directory (hline : remoteLine r = .ok line) (hdir : r.dir = some dir)
    (hfails : ∀ text, GoesTo dir text → (exec text s).1 = false) :
    (∃ cd, GoesTo dir cd ∧
      (r.env = [] →
        runLine exec line s = runParts exec (partsAfter .ifOk r.command) (false, (exec cd s).2) ∧
        ((∀ part ∈ partsAfter .ifOk r.command, part.joint = .ifOk) →
          (runLine exec line s).2 = (exec cd s).2)) ∧
      (r.env ≠ [] → ∃ exports, List.Forall₂ Defines r.env.tail exports ∧
        (runLine exec line s).2 =
          (runLine exec r.command (exports.foldl (fun s text => (exec text s).2) (exec cd s).2)).2)) ∧
    ∀ (τ : Type) (l : Launcher τ) (t : τ),
      (∀ c, c.dir = some dir → ∃ reason, l.start c t = (.notStarted reason, t)) →
      ∃ f, LocalMachine.run l r t = (.error f, t) := by
  refine ⟨?_, fun τ l t hmissing => run_of_missing_directory hdir hmissing⟩
  obtain ⟨start, exports, hstart, hexports, rfl⟩ := remoteLine_eq_ok.mp hline
  rw [hdir] at hstart
  cases hstart with
  | @move _ arg hquote =>
    have hcd := goesTo_of_quote hquote
    have hrun : runLine exec ("cd " ++ arg ++ " && " ++ exports ++ r.command) s =
        runParts exec (partsAfter .ifOk (exports ++ r.command))
          (false, (exec ("cd " ++ arg ++ " ") s).2) := by
      have hfail : exec ("cd " ++ arg ++ " ") s = (false, (exec ("cd " ++ arg ++ " ") s).2) :=
        Prod.ext (hfails _ hcd) rfl
      rw [runLine, parts, String.append_assoc, holds_goesTo hquote, runParts_append, ← hfail]
      rfl
    refine ⟨_, hcd, fun henv => ?_, fun henv => ?_⟩
    · rw [henv] at hexports
      cases hexports
      rw [hrun, String.empty_append]
      exact ⟨rfl, fun hjoint => by rw [runParts_ifOk hjoint]⟩
    · rw [hrun]
      -- The joint after the directory binds the first definition alone; the semicolon runs what follows.
      exact runParts_of_exports hexports henv r.command _

def logging (dir text : String) (ran : List String) : Bool × List String :=
  (words? text != some ["cd", dir], ran ++ [text])

lemma logging_goesTo (dir : String) (ran : List String) (h : GoesTo dir text) :
    (logging dir text ran).1 = false := by
  rw [logging, h]
  exact bne_self_eq_false _

def configuring (env : List (String × String)) : CommandRequest :=
  ⟨"./configure", true, some "/tmp/kexec tools", env, 1000⟩

theorem runLine_of_missing_directory_configuring :
    ∃ line exports,
      remoteLine (configuring [("LC_ALL", "C"), ("PREFIX", "/opt/a b")]) = .ok line ∧
      List.Forall₂ Defines [("PREFIX", "/opt/a b")] exports ∧
      ∃ cd, GoesTo "/tmp/kexec tools" cd ∧
        (runLine (logging "/tmp/kexec tools") line []).2 =
          (runLine (logging "/tmp/kexec tools") "./configure" (cd :: exports)).2 := by
  have hline : remoteLine (configuring [("LC_ALL", "C"), ("PREFIX", "/opt/a b")]) =
      .ok "cd '/tmp/kexec tools' && export LC_ALL=C; export PREFIX='/opt/a b'; ./configure" := by
    decide +kernel
  obtain ⟨⟨cd, hcd, -, hrun⟩, -⟩ := runLine_of_missing_directory (s := []) hline rfl
    fun text h => logging_goesTo "/tmp/kexec tools" [] h
  obtain ⟨exports, hexports, hsame⟩ := hrun (by simp [configuring])
  refine ⟨_, exports, hline, hexports, cd, hcd, hsame.trans ?_⟩
  cases hexports with
  | cons _ hrest =>
    cases hrest
    rfl

def lacking (dir : String) : Launcher (List ProgramCall) where
  finds _ _ := true
  start c ran := if c.dir = some dir then (.absent, ran) else (.finished ⟨0, "", ""⟩, ran ++ [c])

/-- With one variable, the command runs although the directory is missing, where our own machine refuses
to start it. -/
theorem command_runs_without_directory :
    ∃ line, remoteLine (configuring [("LC_ALL", "C")]) = .ok line ∧
      (∀ text ran, GoesTo "/tmp/kexec tools" text → (logging "/tmp/kexec tools" text ran).1 = false) ∧
      "./configure" ∈ (runLine (logging "/tmp/kexec tools") line []).2 ∧
      LocalMachine.run (lacking "/tmp/kexec tools") (configuring [("LC_ALL", "C")]) [] =
        (ProgramEnd.absent.report LocalMachine.describe "./configure" 1000, []) := by
  refine ⟨"cd '/tmp/kexec tools' && export LC_ALL=C; ./configure", by decide +kernel,
    fun text ran h => logging_goesTo _ ran h, by decide +kernel, ?_⟩
  rfl

end SshTarget

end HostProbe
