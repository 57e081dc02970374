import HostProbe.Proofs.Kdump.Configure

/-! The order in which setting up changes a machine. The commands of the early stages begin differently
from those that change how the machine starts, so the latter come only after the former were done. -/

namespace HostProbe

open HostProbe.Text

variable {σ : Type} {n : Node σ}

namespace Ask

variable {start : String}

lemma avoids_map {asRoot shell : Bool} {value : Except Fault String} {f : String → String}
    (hplain : asRoot = false → ∀ arg, ¬ start.toList <+: (f arg).toList)
    (hsudo : shell = false → ∀ arg, ¬ start.toList <+: ("sudo " ++ f arg).toList)
    (hshell : shell = true → ∀ arg, ¬ start.toList <+: ("sudo sh -c " ++ arg).toList) :
    Avoids ⟨asRoot, shell, value.map f⟩ start := by
  intro command hcommand
  cases value with
  | error e => cases hcommand
  | ok arg =>
    cases hcommand
    cases shell with
    | true => exact ⟨fun h => hplain h arg, hshell rfl⟩
    | false => exact ⟨fun h => hplain h arg, hsudo rfl arg⟩

lemma avoids_test (path : String) : (test path).Avoids "sudo sy" :=
  avoids_map (by simp) (by simp) (by simp)

lemma avoids_which (command : String) : (which command).Avoids "sudo sy" :=
  avoids_map (by simp) (by simp) (by simp)

lemma avoids_release : release.Avoids "sudo sy" := by
  simp [release, Avoids]

lemma avoids_cat (path : String) : (cat path).Avoids "sudo sy" :=
  avoids_map (by simp) (by simp) (by simp)

lemma exists_of_edit {expression file command : String}
    (h : (edit expression file).command = .ok command) :
    ∃ args, command = "sed -i.bak " ++ args := by
  rw [edit] at h
  cases hexpression : Shell.quote expression with
  | error f =>
    rw [hexpression] at h
    cases h
  | ok expressionArg =>
    cases hfile : Shell.quote file with
    | error f =>
      rw [hexpression, hfile] at h
      cases h
    | ok fileArg =>
      rw [hexpression, hfile] at h
      cases h
      exact ⟨expressionArg ++ (" " ++ fileArg), by simp [String.append_assoc]⟩

lemma avoids_edit (expression file : String) : (edit expression file).Avoids "sudo sy" := by
  intro command hcommand
  obtain ⟨args, rfl⟩ := exists_of_edit hcommand
  simp [edit]

lemma avoids_rootShell (command : Except Fault String) : (Kdump.rootShell command).Avoids "sudo sy" := by
  simp [Kdump.rootShell, Avoids]

end Ask

namespace Kdump

open Ask

variable (k : Kdump) (n)

lemma releaseStage_avoids (release : String) :
    ∀ a ∈ (releaseStage n release).asks, a.Avoids "sudo s" := by
  simp [releaseStage, releaseAsk, Ask.Avoids]

lemma optionsStage_avoids (release : String) :
    ∀ a ∈ (optionsStage n release).asks, a.Avoids "sudo s" := by
  simp only [optionsStage, List.forall_mem_map]
  exact fun option _ => avoids_map (by simp) (by simp) (by simp)

lemma defaultsStage_avoids (crashkernel : String) :
    ∀ a ∈ (k.defaultsStage n crashkernel).asks, a.Avoids "sudo sy" := by
  unfold defaultsStage
  split
  · simp only [editStage, List.forall_mem_cons]
    exact ⟨avoids_test _, avoids_release, avoids_which _, avoids_which _, avoids_cat _, avoids_edit _ _,
      avoids_edit _ _, by simp⟩
  · simp

lemma updateStage_avoids (crashkernel : String) :
    ∀ a ∈ (k.updateStage n crashkernel).asks, a.Avoids "sudo sy" := by
  simp only [updateStage, List.forall_mem_cons, List.forall_mem_map]
  exact ⟨avoids_test _, fun line _ => avoids_rootShell _⟩

section Line

variable {line : String}

lemma edit_line {expression file : String} (h : n.lineOf (.edit expression file) = .ok line) :
    "sudo s".toList <+: line.toList := by
  obtain ⟨command, hcommand, ⟨hroot, -⟩ | hline⟩ := Node.lineOf_eq_ok h
  · cases hroot
  · obtain ⟨args, rfl⟩ := exists_of_edit hcommand
    obtain rfl : line = "sudo " ++ ("sed -i.bak " ++ args) := hline
    simp

lemma rootShell_line {command : Except Fault String} (h : n.lineOf (rootShell command) = .ok line) :
    "sudo s".toList <+: line.toList := by
  obtain ⟨command, hcommand, ⟨hroot, -⟩ | ⟨arg, rfl⟩⟩ := Node.lineOf_eq_ok h
  · cases hroot
  · simp

lemma boot_line {crashkernel : String} {a : Ask} (ha : a ∈ k.bootAsks crashkernel)
    (h : n.lineOf a = .ok line) : "sudo s".toList <+: line.toList := by
  rcases List.mem_append.mp ha with hedit | hupdate
  · split at hedit
    · simp only [List.mem_cons, List.not_mem_nil, or_false] at hedit
      rcases hedit with rfl | rfl
      · exact edit_line n h
      · exact edit_line n h
    · cases hedit
  · obtain ⟨command, -, rfl⟩ := List.mem_map.mp hupdate
    exact rootShell_line n h

lemma enable_line (h : n.lineOf k.enableAsk = .ok line) : "sudo sy".toList <+: line.toList := by
  obtain ⟨command, hcommand, ⟨hroot, -⟩ | hline⟩ := Node.lineOf_eq_ok h
  · cases hroot
  · change (Shell.quote k.variant.hooks.service).map _ = .ok command at hcommand
    cases hservice : Shell.quote k.variant.hooks.service with
    | error f =>
      rw [hservice] at hcommand
      cases hcommand
    | ok arg =>
      rw [hservice] at hcommand
      cases hcommand
      obtain rfl : line = "sudo " ++ ("systemctl " ++ "enable" ++ " " ++ arg) := hline
      simp

end Line

section Order

variable {crashkernel release : String} {earlier later : List Exchange} {x : Exchange} {complete : Bool}

lemma checked_before {rest : List Stage}
    (h : Staged n (releaseStage n release :: optionsStage n release :: rest) (earlier ++ x :: later)
      complete) (hx : "sudo s".toList <+: x.request.command.toList) :
    (releaseStage n release).done earlier ∧ (optionsStage n release).done earlier ∧
      ∃ part others, earlier = part ++ others ∧ Staged n rest (others ++ x :: later) complete := by
  obtain ⟨toRead, others, rfl, ⟨output, htold, hread⟩, hstaged⟩ :=
    h.past fun hpermits => hpermits.not_start (by simp) (releaseStage_avoids n release) hx
  obtain ⟨toCheck, others, rfl, hoptions, hstaged⟩ :=
    hstaged.past fun hpermits => hpermits.not_start (by simp) (optionsStage_avoids n release) hx
  refine ⟨⟨output, htold.append_right _, hread⟩, fun option hoption => ?_, toRead ++ toCheck, others, ?_,
    hstaged⟩
  · exact ((hoptions option hoption).append_right _).append_left _
  · rw [List.append_assoc]

lemma updated_before (h : Staged n (k.stages n crashkernel release) (earlier ++ x :: later) complete)
    (hx : "sudo sy".toList <+: x.request.command.toList) :
    (k.updateStage n crashkernel).done earlier := by
  have hstart : "sudo s".toList <+: x.request.command.toList := .trans (by decide) hx
  -- Of the stages that are left, none before the service's has a line that begins so.
  obtain ⟨-, -, checked, others, rfl, hstaged⟩ := checked_before n h hstart
  obtain ⟨toEdit, others, rfl, -, hstaged⟩ :=
    hstaged.past fun hpermits => hpermits.not_start (by simp) (k.defaultsStage_avoids n crashkernel) hx
  obtain ⟨toUpdate, others, rfl, ⟨line, hline, hconfirmed⟩, -⟩ :=
    hstaged.past fun hpermits => hpermits.not_start (by simp) (k.updateStage_avoids n crashkernel) hx
  exact ⟨line, hline, ((hconfirmed.append_right _).append_left _).append_left _⟩

end Order

variable {n}

/-- What a run of setting up shows. It goes through the stages; how the machine starts is changed only
after the kernel was found fit, and what starts with it only after the boot configuration was made
anew. -/
structure SetUp (k : Kdump) (n : Node σ) (crashkernel release : String) (xs : List Exchange)
    (complete : Bool) : Prop where
  staged : Staged n (k.stages n crashkernel release) xs complete
  finished : complete = true →
    ∀ stage ∈ k.stages n crashkernel release, ∃ part, part <:+: xs ∧ stage.done part
  boot : ∀ earlier x later, xs = earlier ++ x :: later → ∀ a ∈ k.bootAsks crashkernel,
    n.lineOf a = .ok x.request.command →
      (releaseStage n release).done earlier ∧ (optionsStage n release).done earlier
  enable : ∀ earlier x later, xs = earlier ++ x :: later → n.lineOf k.enableAsk = .ok x.request.command →
    (k.updateStage n crashkernel).done earlier

lemma dumpPathIn_eq {k : Kdump} {s t : NodeState σ} (h : t.dumpPaths = s.dumpPaths) :
    k.dumpPathIn t = k.dumpPathIn s := by
  rw [dumpPathIn, h, dumpPathIn]

lemma SetUp.of_staged {k : Kdump} {crashkernel release : String} {xs : List Exchange} {complete : Bool}
    (h : Staged n (k.stages n crashkernel release) xs complete) :
    k.SetUp n crashkernel release xs complete where
  staged := h
  finished hcomplete := Staged.exists_part (hcomplete ▸ h)
  boot := by
    rintro earlier x later rfl a ha hline
    obtain ⟨hrelease, hoptions, -⟩ := checked_before n h (boot_line n k ha hline)
    exact ⟨hrelease, hoptions⟩
  enable := by
    rintro earlier x later rfl hline
    exact updated_before n k h (enable_line n k hline)

end Kdump

end HostProbe
