import HostProbe.Proofs.Kdump.Stages
import HostProbe.Proofs.Node.Replies
import HostProbe.Proofs.Text.Pieces

/-! Memory is reserved in two steps. The boot defaults are rewritten and read again, and the boot
configuration is made anew if the parameter is mentioned in what was read. Where it is mentioned does
not matter, so a note in the file can stand for the line that holds the parameters. -/

namespace HostProbe

open HostProbe.Text NodeM Procedure

variable {σ : Type} {n : Node σ}

namespace Kdump

variable (k : Kdump) (n)

def edition (content crashkernel : String) : String :=
  if mentions content "crashkernel" then
    Sed.substitution "crashkernel=[^[:space:]\"]*" (parameter crashkernel) (some parameterLines)
  else Sed.substitution "\"$" (" " ++ parameter crashkernel ++ "\"") (some parameterLines)

def editAndRead (file crashkernel : String) : Procedure σ String := do
  let _ ← Procedure.tool .cat
  let _ ← Procedure.tool .sed
  let content ← Cat.read n file true true
  Sed.edit n (edition content crashkernel) file true
  Cat.read n file true true

def rewriteDefaults (file crashkernel : String) : Procedure σ String := do
  if !(← n.pathExists file) then
    throw (.conditionNotMet (file ++ " doesn't exist, check the grub file for " ++ k.os.text))
  editAndRead n file crashkernel

def requireMention (content file crashkernel : String) : Except Fault Unit :=
  if mentions content (parameter crashkernel) then .ok ()
  else .error (.conditionNotMet
    (parameter crashkernel ++ " is missing from " ++ file ++ " after editing it"))

lemma requireMention_eq_ok {content file crashkernel : String} :
    requireMention content file crashkernel = .ok () ↔ mentions content (parameter crashkernel) = true := by
  unfold requireMention
  split
  · next h => exact iff_of_true rfl h
  · next h => exact iff_of_false nofun h

def renewBoot (crashkernel : String) : Procedure σ Unit := do
  let command ← k.updateCommand n crashkernel
  let _ ← n.execute command
    (ExecOptions.successOr { asRoot := true, shell := true } "Failed to update grub")

section Run

variable {k n} (resolve : ToolRequest → ToolM σ Tool) (file crashkernel : String)

lemma run_editDefaults : (k.editDefaults n file crashkernel).run resolve =
    (k.rewriteDefaults n file crashkernel).run resolve >>= fun content =>
      liftM (requireMention content file crashkernel) := by
  unfold editDefaults rewriteDefaults
  rw [run_bind, run_bind, bind_assoc]
  refine bind_congr fun present => ?_
  cases present with
  | false => rfl
  | true =>
    have hcheck (content : String) : (if (!mentions content (parameter crashkernel)) = true then
        throw (.conditionNotMet (parameter crashkernel ++ " is missing from " ++ file ++ " after editing it"))
      else pure () : Procedure σ Unit).run resolve = liftM (requireMention content file crashkernel) := by
      unfold requireMention
      cases mentions content (parameter crashkernel) with
      | false => rfl
      | true => rfl
    simp only [editAndRead, Bool.not_true, Bool.false_eq_true, if_false, run_bind, bind_assoc]
    refine bind_congr fun _ => bind_congr fun _ => bind_congr fun content => ?_
    unfold edition
    split
    · rw [run_bind, run_bind]
      exact bind_congr fun _ => bind_congr hcheck
    · rw [run_bind, run_bind]
      exact bind_congr fun _ => bind_congr hcheck

lemma run_reserveMemory (hfile : k.variant.hooks.defaults.path? k.os = some file) :
    (k.reserveMemory n crashkernel).run resolve =
      (k.rewriteDefaults n file crashkernel).run resolve >>= fun content =>
        liftM (requireMention content file crashkernel) >>= fun _ =>
          (k.renewBoot n crashkernel).run resolve := by
  unfold reserveMemory
  rw [hfile]
  dsimp only
  rw [run_bind, run_editDefaults, bind_assoc]
  rfl

variable {resolve file crashkernel} {s t : Equipped σ}
  (hfile : k.variant.hooks.defaults.path? k.os = some file)

include hfile

lemma reserveMemory_of_rewritten {content : String}
    (h : (k.rewriteDefaults n file crashkernel).run resolve s = (.ok content, t)) :
    (k.reserveMemory n crashkernel).run resolve s =
      if mentions content (parameter crashkernel) then (k.renewBoot n crashkernel).run resolve t
      else (.error (.conditionNotMet
        (parameter crashkernel ++ " is missing from " ++ file ++ " after editing it")), t) := by
  rw [run_reserveMemory resolve file crashkernel hfile, bind_of_ok h, requireMention]
  split
  · exact bind_of_ok (liftM_apply _ t) _
  · exact bind_of_error (liftM_apply _ t) _

lemma exists_of_reserveMemory (h : ((k.reserveMemory n crashkernel).run resolve s).1 = .ok ()) :
    ∃ content, ((k.rewriteDefaults n file crashkernel).run resolve s).1 = .ok content := by
  rw [run_reserveMemory resolve file crashkernel hfile, bind_apply] at h
  rcases hrun : (k.rewriteDefaults n file crashkernel).run resolve s with ⟨f | content, t⟩
  · rw [hrun] at h
    cases h
  · exact ⟨content, rfl⟩

end Run

section Reading

variable {k n} (c : Config) (file crashkernel : String)

abbrev builtInTools (c : Config) (n : Node σ) : ToolRequest → ToolM σ Tool :=
  (ToolRegistry.builtIn c).supply ((ToolRegistry.builtIn c).resolveById n)

lemma emits_tool {asks : List Ask} {ref : ToolRef} {command : String} (hrelease : .release ∈ asks)
    (hwhich : .which command ∈ asks)
    (h : (ToolRegistry.builtIn (σ := σ) c).find? ref.id = some (Tool.commandEntry ref command none)) :
    Emits n Equipped.node asks (fun _ _ => True) ((Procedure.tool ref).run (builtInTools c n)) :=
  HostProbe.emits_tool hrelease hwhich h

/-- What the exchanges show when the boot defaults were rewritten: they were edited as what was read
first has it, and then they were read again. -/
def Rewritten (n : Node σ) (file crashkernel content : String) (xs : List Exchange) : Prop :=
  ∃ ys zs first, xs = ys ++ zs ∧ n.Confirmed (.test file) ys ∧ n.Told (.cat file) ys first ∧
    n.Confirmed (.edit (edition (trimmed first.stdout) crashkernel) file) ys ∧
    n.ReadsLast file content zs

lemma edit_mem_asks (content : String) :
    .edit (edition content crashkernel) file ∈ (editStage n file crashkernel).asks := by
  unfold edition
  split
  · simp [editStage, replaceAsk]
  · simp [editStage, addAsk]

lemma edit_of_edition {file crashkernel content : String} {xs : List Exchange}
    (h : n.Confirmed (.edit (edition content crashkernel) file) xs) :
    n.Confirmed (replaceAsk crashkernel file) xs ∨ n.Confirmed (addAsk crashkernel file) xs := by
  unfold edition at h
  split at h
  · exact .inl h
  · exact .inr h

lemma emits_rewriteDefaults : Emits n Equipped.node (editStage n file crashkernel).asks
    (fun content xs => Rewritten n file crashkernel content xs)
    ((k.rewriteDefaults n file crashkernel).run (builtInTools c n)) := by
  unfold rewriteDefaults
  rw [run_bind]
  refine (Node.emits_pathExists (by simp [editStage])).onNode.bind fun present before hpresent => ?_
  obtain ⟨output, htold, rfl⟩ := hpresent
  cases hcode : output.exitCode == 0 with
  | false => exact emits_throw _
  | true =>
    have htest : n.Confirmed (.test file) before := ⟨output, htold, by simpa using hcode⟩
    simp only [editAndRead, Bool.not_true, Bool.false_eq_true, if_false, run_bind]
    refine (emits_tool c (by simp [editStage]) (by simp [editStage]) rfl).bind fun _ toCat _ => ?_
    refine (emits_tool c (by simp [editStage]) (by simp [editStage]) rfl).bind fun _ toSed _ => ?_
    refine (Node.emits_read (by simp [editStage])).onNode.bind fun content toRead hread => ?_
    refine (Node.emits_edit (edit_mem_asks ..)).onNode.bind fun _ toEdit hedited => ?_
    refine (Node.emits_read (by simp [editStage])).onNode.mono (List.Subset.refl _) ?_
    intro last xs hlast
    obtain ⟨first, hfirst, -, rfl⟩ := hread.told
    refine ⟨before ++ toCat ++ toSed ++ toRead ++ toEdit, xs, first, ?_, ?_, ?_, ?_, hlast⟩
    · simp only [List.append_assoc]
    · exact htest.mono fun x hx => by simp [hx]
    · exact hfirst.mono fun x hx => by simp [hx]
    · exact hedited.append_left _

end Reading

section Lines

def IsParameterLine (line : String) : Prop := startsWith line "GRUB_CMDLINE_LINUX" = true

def Carries (content crashkernel : String) : Prop :=
  ∃ line ∈ linesOf content, IsParameterLine line ∧ mentions line (parameter crashkernel) = true

instance : DecidablePred IsParameterLine := fun line =>
  inferInstanceAs (Decidable (startsWith line "GRUB_CMDLINE_LINUX" = true))

instance (content crashkernel : String) : Decidable (Carries content crashkernel) :=
  inferInstanceAs (Decidable (∃ line ∈ linesOf content, IsParameterLine line ∧
    mentions line (parameter crashkernel) = true))

lemma mentions_iff_exists_line {content crashkernel : String}
    (h : '\n' ∉ crashkernel.toList ∧ '\r' ∉ crashkernel.toList) :
    mentions content (parameter crashkernel) = true ↔
      ∃ line ∈ linesOf content, mentions line (parameter crashkernel) = true := by
  have hbreak : '\n' ∉ (parameter crashkernel).toList ∧ '\r' ∉ (parameter crashkernel).toList := by
    rw [parameter, String.toList_append]
    simpa using h
  have hne : (parameter crashkernel).toList ≠ [] := by
    rw [parameter, String.toList_append]
    exact List.append_ne_nil_of_left_ne_nil (by decide) _
  simp only [mentions, linesOf, occursIn_iff, List.mem_map, exists_exists_and_eq_and,
    String.toList_ofList]
  exact infix_iff_exists_line hbreak hne

end Lines

/-- Memory is reserved exactly if the boot defaults as they were read last mention the parameter and the
boot configuration is made anew. So it is reserved without a line that carries the parameter exactly if
only other lines mention it. -/
theorem reserved_without_parameter_line_iff (k : Kdump) (n : Node σ) (c : Config) (s : Equipped σ)
    {file : String} (hfile : k.variant.hooks.defaults.path? k.os = some file) (crashkernel : String) :
    let tools := ToolRegistry.builtIn c
    let rewritten := tools.perform n (k.rewriteDefaults n file crashkernel) s
    let reserved := tools.perform n (k.reserveMemory n crashkernel) s
    (reserved.1 = .ok () → ∃ content, rewritten.1 = .ok content) ∧
    ∀ content, rewritten.1 = .ok content →
      let renewed := tools.perform n (k.renewBoot n crashkernel) rewritten.2
      Rewritten n file crashkernel content (n.exchanges s.node rewritten.2.node) ∧
      (mentions content (parameter crashkernel) = false → reserved = (.error (.conditionNotMet
        (parameter crashkernel ++ " is missing from " ++ file ++ " after editing it")), rewritten.2)) ∧
      (reserved.1 = .ok () ↔ mentions content (parameter crashkernel) = true ∧ renewed.1 = .ok ()) ∧
      ('\n' ∉ crashkernel.toList ∧ '\r' ∉ crashkernel.toList →
        (reserved.1 = .ok () ∧ ¬ Carries content crashkernel ↔
          (∃ line ∈ linesOf content, mentions line (parameter crashkernel) = true) ∧
          (∀ line ∈ linesOf content, mentions line (parameter crashkernel) = true →
            ¬ IsParameterLine line) ∧ renewed.1 = .ok ())) := by
  intro tools rewritten reserved
  refine ⟨exists_of_reserveMemory hfile, fun content hcontent => ?_⟩
  intro renewed
  have hrun : rewritten = (.ok content, rewritten.2) := Prod.ext hcontent rfl
  have hreserved : reserved = if mentions content (parameter crashkernel) then renewed else _ :=
    reserveMemory_of_rewritten hfile hrun
  have hiff : reserved.1 = .ok () ↔
      mentions content (parameter crashkernel) = true ∧ renewed.1 = .ok () := by
    rw [hreserved]
    split
    · next hmention => exact (and_iff_right hmention).symm
    · next hmention => exact iff_of_false nofun fun h => hmention h.1
  obtain ⟨-, xs, hleads, -, hshows⟩ := emits_rewriteDefaults (k := k) (n := n) c file crashkernel s
  refine ⟨hleads.exchanges_eq ▸ hshows content hcontent, fun hmissing => ?_, hiff, fun hbreak => ?_⟩
  · rw [hreserved, hmissing, if_neg Bool.false_ne_true]
  · have hnone : ¬ Carries content crashkernel ↔ ∀ line ∈ linesOf content,
        mentions line (parameter crashkernel) = true → ¬ IsParameterLine line := by
      simp only [Carries, not_exists, not_and]
      exact forall₂_congr fun line hline => ⟨fun h hmention hparameter => h hparameter hmention,
        fun h hparameter hmention => h hmention hparameter⟩
    rw [hiff, mentions_iff_exists_line hbreak, hnone]
    exact ⟨fun h => ⟨h.1.1, h.2, h.1.2⟩, fun h => ⟨⟨h.1, h.2.2⟩, h.2.1⟩⟩

def unedited (file content : String) : Node Unit :=
  .replying fun line => ⟨0, if line = "sudo cat " ++ file then content else "", ""⟩

def unprepared (os : Os) : Equipped Unit := { node := { machine := (), os := some os } }

theorem reserved_without_parameter_line_iff_other_variable :
    let os : Os := .named .suse "SLES" (.release 15 4 0)
    let content := "GRUB_TERMINAL=\"crashkernel=512M\"\nGRUB_CMDLINE_LINUX=\"quiet\""
    let n := unedited "/etc/default/grub" content
    ∃ v, kdumpVariants.select os = .ok v ∧ ((ToolRegistry.builtIn {}).perform n
      (reserveMemory ⟨0, v, os, {}⟩ n "512M") (unprepared os)).1 = .ok () ∧ ¬ Carries content "512M" := by
  intro os content n
  let v := kdumpVariants.entries.getLast (by decide)
  refine ⟨v, rfl, ?_⟩
  have hiff := reserved_without_parameter_line_iff ⟨0, v, os, {}⟩ n {} (unprepared os)
    (rfl : v.hooks.defaults.path? os = some "/etc/default/grub") "512M"
  have hother := (hiff.2 content (by decide +kernel)).2.2.2 (by decide)
  exact hother.mpr (by decide +kernel)

/-- A note in the file stands for the line: the boot configuration is made anew without the parameter. -/
theorem note_stands_for_parameter_line :
    let os : Os := .named .debian "Ubuntu" (.release 22 4 0)
    let file := "/etc/default/grub.d/kdump-tools.cfg"
    let content := "# set crashkernel=512M here\nGRUB_CMDLINE_LINUX=\"quiet\""
    let n := unedited file content
    ∃ v, kdumpVariants.select os = .ok v ∧
      let k : Kdump := ⟨0, v, os, {}⟩
      let out := (ToolRegistry.builtIn {}).perform n (k.reserveMemory n "512M") (unprepared os)
      k.variant.hooks.defaults.path? k.os = some file ∧ out.1 = .ok () ∧
        ((ToolRegistry.builtIn {}).perform n (k.rewriteDefaults n file "512M") (unprepared os)).1 =
          .ok content ∧
        ¬ Carries content "512M" ∧ out.2.node.contacts.getLast? =
          some (.run ⟨"sudo sh -c update-grub", true, none, [], 600000⟩) := by
  intro os file content n
  refine ⟨_, rfl, ?_⟩
  decide +kernel

end Kdump

end HostProbe
