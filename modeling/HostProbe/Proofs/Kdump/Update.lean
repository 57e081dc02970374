import HostProbe.Proofs.Kdump.Loaded
import HostProbe.Proofs.Node.Outcome
import HostProbe.Proofs.Shell.Sequence
import HostProbe.Proofs.Ssh.Words

/-! From some version on the boot configuration is set by one command, and the value of the parameter
stands between double quotes in it as it is. Only some values are read there as they are; what a shell
makes of a dollar sign or a backquote in a word is not a matter of cutting the line into words. -/

namespace HostProbe

namespace Shell

variable {c : Char} {s w rest front before : List Char} {ws : List (List Char)} {p : Place}

/-- What stands between double quotes and is read as it is: no quote ends it, and a backslash stands only
before a character that it leaves alone. -/
inductive Literal : List Char → Prop
  | nil : Literal []
  | char {c : Char} {s : List Char} (hc : c ≠ '"' ∧ c ≠ '\\') (hs : Literal s) : Literal (c :: s)
  | backslash {c : Char} {s : List Char} (hc : isDoubleEscapable c = false ∧ c ≠ '\n') (hs : Literal s) :
    Literal ('\\' :: c :: s)

lemma literal_cons_iff (hc : c ≠ '"' ∧ c ≠ '\\') : Literal (c :: s) ↔ Literal s := by
  refine ⟨fun h => ?_, .char hc⟩
  cases h with
  | char _ hs => exact hs
  | backslash _ _ => exact absurd rfl hc.2

lemma literal_append_iff (hquote : '"' ∉ front) (hescape : '\\' ∉ front) :
    Literal (front ++ s) ↔ Literal s := by
  induction front with
  | nil => exact Iff.rfl
  | cons c front ih =>
    rw [List.mem_cons, not_or] at hquote hescape
    rw [List.cons_append, literal_cons_iff ⟨Ne.symm hquote.1, Ne.symm hescape.1⟩, ih hquote.2 hescape.2]

lemma literal_of_notMem (hquote : '"' ∉ s) (hescape : '\\' ∉ s) : Literal s := by
  rw [← List.append_nil s, literal_append_iff hquote hescape]
  exact .nil

lemma wordsFrom_literal (h : Literal s) (w rest : List Char) :
    wordsFrom .double w (s ++ '"' :: rest) = wordsFrom .plain (w ++ s) rest := by
  induction h generalizing w with
  | nil => simp [wordsFrom]
  | char hc hs ih => rw [List.cons_append, wordsFrom, if_neg hc.1, if_neg hc.2, ih]; simp
  | backslash hc hs ih =>
    rw [List.cons_append, List.cons_append, wordsFrom, if_neg (by decide), if_pos rfl, wordsFrom,
      if_neg hc.2, if_neg (by simp [hc.1]), ih]
    simp

def held : Place → List Char → Nat
  | .between, _ => 0
  | .comment, _ => 0
  | .doubleEscaped, w => w.length + 1
  | _, w => w.length

lemma wordsFrom_cons (p : Place) (w : List Char) (c : Char) (s : List Char) :
    (p = .plain ∧ wordsFrom p w (c :: s) = (wordsFrom .between [] s).map (w :: ·)) ∨
      ∃ p' w', wordsFrom p w (c :: s) = wordsFrom p' w' s ∧ held p' w' ≤ held p w + 1 ∧
        (p' = .escaped → held p' w' ≤ held p w) := by
  by_cases hgap : p = .plain ∧ isWordGap c = true
  · obtain ⟨rfl, hc⟩ := hgap
    exact .inl ⟨rfl, by rw [wordsFrom, if_pos hc]⟩
  · refine .inr ?_
    cases p <;> simp only [wordsFrom]
    case plain =>
      rw [if_neg (by simpa using hgap)]
      split_ifs <;> exact ⟨_, _, rfl, by simp [held], by simp [held]⟩
    all_goals split_ifs <;> exact ⟨_, _, rfl, by simp [held] <;> omega, by simp [held]⟩

lemma length_of_wordsFrom (h : wordsFrom p w s = some ws) : ws.flatten.length ≤ held p w + s.length := by
  induction s generalizing p w ws with
  | nil => cases p <;> cases h <;> simp [held]
  | cons c s ih =>
    rcases wordsFrom_cons p w c s with ⟨rfl, hstep⟩ | ⟨p', w', hstep, hheld, -⟩
    · rw [hstep, Option.map_eq_some_iff] at h
      obtain ⟨others, hothers, rfl⟩ := h
      have hlength := ih hothers
      simp only [List.flatten_cons, List.length_append, List.length_cons, held] at hlength ⊢
      omega
    · have hlength := ih (hstep ▸ h)
      rw [List.length_cons]
      omega

lemma length_of_wordsFrom_quote (h : wordsFrom p w (s ++ ['"']) = some ws) (hp : p = .escaped → s ≠ []) :
    ws.flatten.length ≤ held p w + s.length := by
  induction s generalizing p w ws with
  | nil =>
    cases p with
    | escaped => exact absurd rfl (hp rfl)
    | comment | double => cases h; simp [held]
    | between | plain | single | doubleEscaped => cases h
  | cons c s ih =>
    rw [List.cons_append] at h
    rcases wordsFrom_cons p w c (s ++ ['"']) with ⟨rfl, hstep⟩ | ⟨p', w', hstep, hheld, hescaped⟩
    · rw [hstep, Option.map_eq_some_iff] at h
      obtain ⟨others, hothers, rfl⟩ := h
      have hlength := ih hothers nofun
      simp only [List.flatten_cons, List.length_append, List.length_cons, held] at hlength ⊢
      omega
    · rw [hstep] at h
      rw [List.length_cons]
      by_cases hp' : p' = .escaped
      · -- The backslash itself is lost, so nothing has to be known of what follows it.
        have hlength := length_of_wordsFrom h
        have hlost := hescaped hp'
        simp only [List.length_append, List.length_singleton] at hlength
        omega
      · have hlength := ih h fun he => absurd he hp'
        omega

lemma literal_of_length {s w : List Char} (h : wordsFrom .double w (s ++ ['"']) = some ws)
    (hlength : w.length + s.length ≤ ws.flatten.length) : Literal s := by
  cases s with
  | nil => exact .nil
  | cons c s =>
    rw [List.cons_append, wordsFrom] at h
    rw [List.length_cons] at hlength
    split_ifs at h with hquote hback
    · have hlost := length_of_wordsFrom_quote h (by simp)
      simp only [held] at hlost
      omega
    · cases s with
      | nil => cases h
      | cons d s =>
        rw [List.cons_append, wordsFrom] at h
        rw [List.length_cons] at hlength
        split_ifs at h with hline hescaped
        · have hlost := length_of_wordsFrom_quote h (by simp)
          simp only [held] at hlost
          omega
        · have hlost := length_of_wordsFrom_quote h (by simp)
          simp only [held, List.length_append, List.length_singleton] at hlost
          omega
        · have hrest : (w ++ ['\\', d]).length + s.length ≤ ws.flatten.length := by
            simp only [List.length_append, List.length_cons, List.length_nil]
            omega
          exact hback ▸ .backslash ⟨by simpa using hescaped, hline⟩ (literal_of_length h hrest)
    · have hrest : (w ++ [c]).length + s.length ≤ ws.flatten.length := by
        simp only [List.length_append, List.length_singleton]
        omega
      exact .char ⟨hquote, hback⟩ (literal_of_length h hrest)
termination_by s.length

lemma spells_between (h : Literal s) : Spells ('"' :: s ++ ['"']) s where
  reads before rest := by
    rw [List.append_assoc, List.cons_append, List.singleton_append]
    exact wordsFrom_literal h before rest
  opens := ⟨_, _, rfl, rfl⟩

lemma words?_between {front value : String} (hfront : isFixedWord front) :
    words? (front ++ "\"" ++ value ++ "\"") = some [front ++ value] ↔ Literal value.toList := by
  have hspells : Spells front.toList front.toList := (writes_fixed hfront).spells
  constructor
  · intro h
    rw [words?, split?, Option.map_eq_some_iff] at h
    obtain ⟨ws, hws, heq⟩ := h
    have hread : wordsFrom .double front.toList (value.toList ++ ['"']) = some ws := by
      simpa [hspells.between, wordsFrom, isWordGap] using hws
    have hflat : ws.flatten = front.toList ++ value.toList := by
      obtain ⟨word, rfl, hword⟩ := List.map_eq_singleton_iff.mp heq
      simp [← String.toList_append, ← hword]
    exact literal_of_length hread (by simp [hflat])
  · intro h
    have hword := hspells.append (spells_between h)
    exact Spells.words? (by simpa using hword)

lemma stands_between (h : Literal s) : Stands ('"' :: s ++ ['"']) where
  reads joint before rest := by
    have hinside : ∀ before, partsFrom .double joint before (s ++ '"' :: rest) =
        partsFrom .plain joint (before ++ s ++ ['"']) rest := by
      induction h with
      | nil => simp [partsFrom_quoted (p := .double) rfl, Place.after]
      | char hc _ ih =>
        intro before
        rw [List.cons_append, partsFrom_quoted rfl, Place.after, if_neg hc.1, if_neg hc.2, ih]
        simp
      | backslash _ _ ih =>
        intro before
        rw [List.cons_append, List.cons_append, partsFrom_quoted rfl, Place.after, if_neg (by decide),
          if_pos rfl, partsFrom_quoted rfl, Place.after, ih]
        simp
    rw [List.cons_append, List.cons_append, partsFrom_plain rfl (by decide) (by decide) (by decide),
      Place.opening, if_pos rfl, List.append_assoc, List.singleton_append, hinside]
    simp
  opens := ⟨_, _, rfl, rfl⟩

end Shell

namespace Kdump

open Shell NodeM Procedure

variable {σ : Type} {n : Node σ} {k : Kdump} {value : String}

def updateLine (value : String) : String :=
  "grubby --update-kernel=ALL --args=\"crashkernel=" ++ value ++ "\""

abbrev updateOptions : ExecOptions :=
  ExecOptions.successOr { asRoot := true, shell := true } "Failed to update grub"

section Line

lemma updateLine_eq (value : String) : updateLine value =
    "grubby " ++ "--update-kernel=ALL " ++ ("--args=" ++ "\"" ++ parameter value ++ "\"") := by
  change "grubby --update-kernel=ALL --args=\"crashkernel=" ++ value ++ "\"" = _
  apply String.toList_inj.mp
  simp [parameter]

lemma literal_parameter : Literal (parameter value).toList ↔ Literal value.toList := by
  rw [parameter, String.toList_append]
  exact literal_append_iff (by decide) (by decide)

lemma words?_updateLine : words? (updateLine value) =
    some ["grubby", "--update-kernel=ALL", "--args=" ++ parameter value] ↔ Literal value.toList := by
  have hfronts : Fronts ("grubby " ++ "--update-kernel=ALL ") ["grubby", "--update-kernel=ALL"] :=
    (fronts_fixed "grubby" (by decide)).append (fronts_fixed "--update-kernel=ALL" (by decide))
  have hargs : isFixedWord "--args=" := by decide
  rw [updateLine_eq, hfronts, ← literal_parameter, ← words?_between hargs]
  simp [Option.map_eq_some_iff]

lemma parts_updateLine (h : Literal value.toList) :
    parts (updateLine value) = [⟨.always, updateLine value⟩] := by
  have hgrubby : Stands "grubby".toList := stands_inner (by simp) (List.all_eq_true.mp (by decide))
  have hkernels : Stands "--update-kernel=ALL".toList := stands_inner (by simp) (List.all_eq_true.mp (by decide))
  have hargs : Stands ("--args=" ++ "\"" ++ parameter value ++ "\"").toList := by
    have hstart : Stands "--args=".toList := stands_inner (by simp) (List.all_eq_true.mp (by decide))
    simpa using hstart.append (stands_between (literal_parameter.mpr h))
  have hline : (updateLine value).toList = ("grubby" ++ " " ++ "--update-kernel=ALL").toList ++
      (' ' :: (("--args=" ++ "\"" ++ parameter value ++ "\"").toList ++ [])) := by
    rw [updateLine_eq]
    simp
  rw [parts, partsAfter, hline, partsFrom_words hgrubby hkernels, partsFrom_space (by simp),
    hargs.between]
  have htext : ("grubby" ++ " " ++ "--update-kernel=ALL").toList ++ [' '] ++
      ("--args=" ++ "\"" ++ parameter value ++ "\"").toList = (updateLine value).toList := by
    rw [hline]
    simp
  have hne : (updateLine value).toList ≠ [] := by
    rw [hline]
    simp
  rw [htext, partsFrom, partOf, if_neg hne, String.ofList_toList]

lemma noNul_updateLine (h : ¬ holdsNul value) : ¬ holdsNul (updateLine value) := by
  rw [updateLine_eq]
  simpa [holdsNul, parameter] using h

lemma words?_of_lineOf {line command : String} (h : n.lineOf (updateOptions.ask command) = .ok line) :
    words? line = some ["sudo", "sh", "-c", command] := by
  have hshell : (quote command).map ("sudo sh -c " ++ ·) = .ok line := h
  cases hquote : quote command with
  | error f =>
    rw [hquote] at hshell
    cases hshell
  | ok arg =>
    rw [hquote] at hshell
    cases hshell
    exact Node.words?_sudoShell (writes_of_quote hquote)

end Line

section Run

variable {s : Equipped σ}

lemma hooks_of_redhat {os : Os} {v : Variant KdumpHooks} (hselect : kdumpVariants.select os = .ok v)
    (hfamily : os.family = .redhat) :
    v.hooks.defaults = .fileBeforeEight "/etc/default/grub" ∧ v.hooks.update = .byFirmware := by
  rw [VariantTable.select, hfamily] at hselect
  cases hselect
  exact ⟨rfl, rfl⟩

variable (hselect : kdumpVariants.select k.os = .ok k.variant) (hfamily : k.os.family = .redhat)
  (hversion : k.os.setsBootParameters = true)

include hselect hfamily hversion

lemma reserveMemory_apply (resolve : ToolRequest → ToolM σ Tool) (value : String) :
    (k.reserveMemory n value).run resolve s =
      ((n.execute (updateLine value) updateOptions s.node).1.map fun _ => (),
        { s with node := (n.execute (updateLine value) updateOptions s.node).2 }) := by
  obtain ⟨hdefaults, hupdate⟩ := hooks_of_redhat hselect hfamily
  have hpath : k.variant.hooks.defaults.path? k.os = none := by
    rw [hdefaults, BootDefaults.path?, if_pos hversion]
  have hcommand : k.updateCommand n value = pure (updateLine value) := by
    rw [updateCommand, hupdate]
    dsimp only
    rw [if_pos hversion]
    rfl
  have hpure : ToolM.onNode (pure (updateLine value)) = (pure (updateLine value) : ToolM σ String) := rfl
  have hrun : (k.reserveMemory n value).run resolve =
      ToolM.onNode (n.execute (updateLine value) updateOptions) >>= fun _ => pure () := by
    unfold reserveMemory
    rw [hpath, hcommand]
    dsimp only
    rw [run_bind, run_ofNode, hpure, pure_bind, run_bind]
    rfl
  rw [hrun, bind_apply, ToolM.onNode_apply]
  rcases n.execute (updateLine value) updateOptions s.node with ⟨_ | r, t⟩ <;> rfl

end Run

/-- On such a system the parameter is set by one line, which splits below sudo into the command as it was
put together, unless nothing could be sent. The words of that command are the intended ones exactly if
the value is literal between double quotes, and then they are one command. -/
theorem update_keeps_value_iff (k : Kdump) (n : Node σ) (c : Config) (s : Equipped σ)
    (hselect : kdumpVariants.select k.os = .ok k.variant) (hfamily : k.os.family = .redhat)
    (hversion : k.os.setsBootParameters = true) (value : String) (hnul : ¬ holdsNul value) :
    let out := (ToolRegistry.builtIn c).perform n (k.reserveMemory n value) s
    (n.Sends Node.asksSudo (fun line => words? line = some ["sudo", "sh", "-c", updateLine value])
        s.node out.2.node ∨
      n.Hands Node.asksSudo s.node out.2.node ∧ ¬ n.Serves true s.node ∧ out.1 ≠ .ok ()) ∧
    (words? (updateLine value) =
      some ["grubby", "--update-kernel=ALL", "--args=" ++ parameter value] ↔ Literal value.toList) ∧
    (Literal value.toList → parts (updateLine value) = [⟨.always, updateLine value⟩]) := by
  intro out
  have hout : out = ((n.execute (updateLine value) updateOptions s.node).1.map fun _ => (),
      { s with node := (n.execute (updateLine value) updateOptions s.node).2 }) :=
    reserveMemory_apply hselect hfamily hversion _ value
  refine ⟨?_, words?_updateLine, parts_updateLine⟩
  obtain ⟨line, hline⟩ := Node.exists_lineOf n updateOptions (noNul_updateLine hnul)
  have hcases := Node.hands_or_sends_execute (n := n) (updateLine value) updateOptions s.node
  rw [hout]
  by_cases hsends : n.Sends Node.asksSudo
      (fun line => n.lineOf (updateOptions.ask (updateLine value)) = .ok line) s.node
      (n.execute (updateLine value) updateOptions s.node).2
  · exact .inl (hsends.mono fun line => words?_of_lineOf)
  · obtain ⟨hhands, hfails⟩ := hcases.resolve_right hsends
    refine .inr ⟨hhands, fun hserves => hsends (hserves.sends_execute rfl hline), fun hok => ?_⟩
    rcases hrun : (n.execute (updateLine value) updateOptions s.node).1 with f | r
    · rw [hrun] at hok
      cases hok
    · exact hfails r hrun

theorem update_keeps_value_iff_size_and_place :
    let os : Os := .named .redhat "CentOS" (.release 8 4 0)
    ∃ v, kdumpVariants.select os = .ok v ∧
      words? (updateLine "512M@64M") =
        some ["grubby", "--update-kernel=ALL", "--args=" ++ parameter "512M@64M"] := by
  intro os
  let v := kdumpVariants.entries.head (by decide)
  refine ⟨v, rfl, ?_⟩
  have hkeeps := update_keeps_value_iff ⟨0, v, os, {}⟩ (booted "") {} (unprepared os) rfl rfl
    (by decide) "512M@64M" (by decide)
  exact hkeeps.2.1.mpr (literal_of_notMem (by decide) (by decide))

/-- A quote in the value ends the quotes of the command, and then more commands run as root. -/
theorem quote_adds_command :
    let os : Os := .named .redhat "CentOS" (.release 8 4 0)
    let value := "512M\"; reboot; \""
    ∃ v, kdumpVariants.select os = .ok v ∧
      let out := (ToolRegistry.builtIn {}).perform (booted "")
        (Kdump.reserveMemory ⟨0, v, os, {}⟩ (booted "") value) (unprepared os)
      out.1 = .ok () ∧ out.2.node.contacts.getLast? = some (.run
        ⟨"sudo sh -c 'grubby --update-kernel=ALL --args=\"crashkernel=512M\"; reboot; \"\"'",
          true, none, [], 600000⟩) ∧
      words? (updateLine value) ≠
        some ["grubby", "--update-kernel=ALL", "--args=" ++ parameter value] ∧
      parts (updateLine value) = [⟨.always, "grubby --update-kernel=ALL --args=\"crashkernel=512M\""⟩,
        ⟨.always, "reboot"⟩, ⟨.always, "\"\""⟩] := by
  intro os value
  refine ⟨_, rfl, ?_⟩
  decide +kernel

end Kdump

end HostProbe
