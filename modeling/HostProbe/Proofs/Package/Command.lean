import HostProbe.Package.Install
import HostProbe.Proofs.Node.Errand

/-! The commands of package managers, and the lines that are sent for them. Such a command runs with sudo
in a shell of its own, so that its line tells it; the line of another command is none of these lines if
that command begins otherwise. -/

namespace HostProbe

open Shell

variable {σ : Type} {command command' : String}

namespace PackageKind

inductive Needs (kind : PackageKind) : String → Prop where
  | install (names : String) : Needs kind (kind.installCommand names)
  | query (name : String) : Needs kind (kind.queryCommand name)

inductive Issues (kind : PackageKind) (command : String) : Prop where
  | refresh (h : kind.refreshCommand? = some command)
  | use (h : kind.Needs command)

def heads (kind : PackageKind) : List String :=
  [kind.installCommand "", kind.queryCommand ""] ++ kind.refreshCommand?.toList

variable {kind kind' : PackageKind}

lemma prefix_append {head start : String} (h : head.toList <+: start.toList) (rest : String) :
    head.toList <+: (start ++ rest).toList := by
  rw [String.toList_append]
  exact List.prefix_append_of_prefix h

lemma Needs.begins (h : kind.Needs command) :
    (kind.installCommand "").toList <+: command.toList ∨
      (kind.queryCommand "").toList <+: command.toList := by
  cases h with
  | install names =>
    have htext : kind.installCommand names = kind.installCommand "" ++ names := by cases kind <;> rfl
    exact .inl (htext ▸ prefix_append (List.prefix_refl _) names)
  | query name =>
    have htext : kind.queryCommand name = kind.queryCommand "" ++ name := by cases kind <;> rfl
    exact .inr (htext ▸ prefix_append (List.prefix_refl _) name)

lemma exists_head_of_issues (h : kind.Issues command) :
    ∃ head ∈ kind.heads, head.toList <+: command.toList := by
  cases h with
  | refresh h => exact ⟨command, by simp [heads, h], List.prefix_refl _⟩
  | use h =>
    obtain h | h := h.begins
    · exact ⟨_, by simp [heads], h⟩
    · exact ⟨_, by simp [heads], h⟩

lemma eq_of_issues (h : kind.Issues command) (h' : kind'.Issues command) : kind = kind' := by
  obtain ⟨head, hmem, hhead⟩ := exists_head_of_issues h
  obtain ⟨head', hmem', hhead'⟩ := exists_head_of_issues h'
  have hcomparable := List.prefix_or_prefix_of_prefix hhead hhead'
  have hapart : ∀ kind ∈ all, ∀ kind' ∈ all, ∀ head ∈ kind.heads, ∀ head' ∈ kind'.heads,
      head.toList <+: head'.toList ∨ head'.toList <+: head.toList → kind = kind' := by
    decide +kernel
  exact hapart kind (by cases kind <;> decide) kind' (by cases kind' <;> decide) head hmem head' hmem'
    hcomparable

lemma Needs.ne_refresh (h : kind.Needs command) : kind.refreshCommand? ≠ some command := by
  have hnot : ∀ kind ∈ all, ∀ text ∈ kind.refreshCommand?,
      ¬ ((kind.installCommand "").toList <+: text.toList ∨
        (kind.queryCommand "").toList <+: text.toList) := by
    decide +kernel
  exact fun hrefresh => hnot kind (by cases kind <;> decide) command hrefresh h.begins

end PackageKind

def managerHeads : List String := ["sh ", "sudo ", "DEBIAN_", "apt-", "dnf ", "yum ", "zypper "]

lemma exists_managerHead {kind : PackageKind} (h : kind.Issues command) :
    ∃ head ∈ managerHeads, head.toList <+: command.toList := by
  obtain ⟨start, hmem, hstart⟩ := PackageKind.exists_head_of_issues h
  have hheads : ∀ kind ∈ PackageKind.all, ∀ start ∈ kind.heads,
      ∃ head ∈ managerHeads, head.toList <+: start.toList := by
    decide +kernel
  obtain ⟨head, hhead, hprefix⟩ := hheads kind (by cases kind <;> decide) start hmem
  exact ⟨head, hhead, hprefix.trans hstart⟩

def IsForeign (command : String) : Prop := ∀ head ∈ managerHeads, ¬ head.toList <+: command.toList

def startsForeign (start : String) : Bool :=
  managerHeads.all fun head =>
    !head.toList.isPrefixOf start.toList && !start.toList.isPrefixOf head.toList

lemma isForeign_of_start (start : String) (h : startsForeign start)
    (hstart : start.toList <+: command.toList) : IsForeign command := by
  intro head hhead hprefix
  have hapart := List.all_eq_true.mp h head hhead
  simp only [Bool.and_eq_true, Bool.not_eq_true', ← Bool.not_eq_true, List.isPrefixOf_iff_prefix] at hapart
  have hcomparable := List.prefix_or_prefix_of_prefix hprefix hstart
  exact hcomparable.elim hapart.1 hapart.2

section Line

variable {n : Node σ} {x : Exchange} {line arg : String}

namespace Node

def Concerns (n : Node σ) (command : String) (x : Exchange) : Prop :=
  n.lineOf (packageOptions.ask command) = .ok x.request.command

def Apart (n : Node σ) (line : String) : Prop :=
  ∀ kind command, PackageKind.Issues kind command → n.lineOf (packageOptions.ask command) ≠ .ok line

lemma lineOf_packageOptions (n : Node σ) (command : String) :
    n.lineOf (packageOptions.ask command) = (quote command).map ("sudo sh -c " ++ ·) := rfl

lemma exists_arg_of_lineOf (h : n.lineOf (packageOptions.ask command) = .ok line) :
    ∃ arg, quote command = .ok arg ∧ line = "sudo sh -c " ++ arg := by
  rw [lineOf_packageOptions] at h
  cases harg : quote command with
  | error f =>
    rw [harg] at h
    cases h
  | ok arg =>
    rw [harg] at h
    cases h
    exact ⟨arg, rfl, rfl⟩

lemma eq_of_lineOf (h : n.lineOf (packageOptions.ask command) = .ok line)
    (h' : n.lineOf (packageOptions.ask command') = .ok line) : command = command' := by
  obtain ⟨arg, harg, rfl⟩ := exists_arg_of_lineOf h
  obtain ⟨arg', harg', hline⟩ := exists_arg_of_lineOf h'
  have hwords := words?_sudoShell (writes_of_quote harg)
  rw [hline, words?_sudoShell (writes_of_quote harg')] at hwords
  simpa using hwords.symm

lemma apart_of_asksSudo (h : asksSudo line) : n.Apart line := by
  intro kind command _ hline
  obtain ⟨arg, -, hsudo⟩ := exists_arg_of_lineOf hline
  have hstart : "sudo".toList <+: line.toList := by
    rw [hsudo]
    exact PackageKind.prefix_append (by decide) arg
  rw [h] at hstart
  exact absurd hstart (by decide)

lemma lineOf_ask_cases {opts : ExecOptions} (h : n.lineOf (opts.ask command) = .ok line) :
    line = command ∨ line = "sudo " ++ command ∨
      n.lineOf (packageOptions.ask command) = .ok line := by
  rw [lineOf_packageOptions]
  unfold lineOf ExecOptions.ask at h
  cases hsudo : opts.asRoot || n.alwaysSudo with
  | false =>
    simp only [hsudo, Bool.false_eq_true, if_false] at h
    exact .inl (Except.ok.inj h).symm
  | true =>
    cases hshell : opts.shell with
    | false =>
      simp only [hsudo, hshell, if_true, Except.bind, Bool.false_eq_true, if_false] at h
      exact .inr (.inl (Except.ok.inj h).symm)
    | true =>
      simp only [hsudo, hshell, if_true, Except.bind] at h
      exact .inr (.inr h)

lemma apart_of_isForeign {opts : ExecOptions} (h : IsForeign command)
    (hline : n.lineOf (opts.ask command) = .ok line) : n.Apart line := by
  intro kind other hissues hother
  obtain ⟨arg, harg, hsudo⟩ := exists_arg_of_lineOf hother
  rcases lineOf_ask_cases hline with rfl | rfl | hsame
  · refine h "sudo " (by decide) ?_
    rw [hsudo]
    exact PackageKind.prefix_append (by decide) arg
  · rw [← String.toList_inj] at hsudo
    refine h "sh " (by decide) ⟨("-c " ++ arg).toList, ?_⟩
    simpa using hsudo.symm
  · obtain rfl : other = command := eq_of_lineOf hother hsame
    obtain ⟨head, hmem, hhead⟩ := exists_managerHead hissues
    exact h head hmem hhead

end Node

end Line

end HostProbe
