import HostProbe.Kdump.Session
import HostProbe.Proofs.Tool.Exchange

/-! The stages of setting up crash dumps. Each stage asks only for its own commands, and it is begun only
after the stages before it were done; dumps are moved only after the stage that moves them was told
that the directory is there and that the service's configuration was edited. -/

namespace HostProbe

open HostProbe.Text NodeM Procedure

variable {σ α β : Type}

structure Stage where
  asks : List Ask
  done : List Exchange → Prop

/-- Exchanges of stages one after another, where a stage is begun only when those before it are done;
the flag tells that all of them are done. -/
inductive Staged (n : Node σ) : List Stage → List Exchange → Bool → Prop
  | complete : Staged n [] [] true
  | stopped {stage : Stage} {rest : List Stage} {xs : List Exchange}
      (hasks : ∀ x ∈ xs, n.Permits stage.asks x.request.command) : Staged n (stage :: rest) xs false
  | next {stage : Stage} {rest : List Stage} {xs ys : List Exchange} {complete : Bool}
      (hasks : ∀ x ∈ xs, n.Permits stage.asks x.request.command) (hdone : stage.done xs)
      (hrest : Staged n rest ys complete) : Staged n (stage :: rest) (xs ++ ys) complete

namespace Staged

variable {n : Node σ} {stage : Stage} {rest stages : List Stage} {xs : List Exchange}

lemma past {earlier later : List Exchange} {x : Exchange} {complete : Bool}
    (h : Staged n (stage :: rest) (earlier ++ x :: later) complete)
    (hx : ¬ n.Permits stage.asks x.request.command) :
    ∃ part others, earlier = part ++ others ∧ stage.done part ∧
      Staged n rest (others ++ x :: later) complete := by
  generalize hall : earlier ++ x :: later = all at h
  cases h with
  | stopped hasks => exact absurd (hasks x (hall ▸ by simp)) hx
  | @next _ _ part ys _ hasks hdone hrest =>
    obtain ⟨mine, hpart, hys⟩ | ⟨others, hearlier, rfl⟩ := List.append_eq_append_iff.mp hall
    · cases mine with
      | nil => exact ⟨part, [], by simpa using hpart.symm, hdone, by simpa [hys] using hrest⟩
      | cons y mine =>
        cases hys
        exact absurd (hasks x (by simp [hpart])) hx
    · exact ⟨part, others, hearlier, hdone, hrest⟩

lemma exists_part (h : Staged n stages xs true) :
    ∀ stage ∈ stages, ∃ part, part <:+: xs ∧ stage.done part := by
  generalize htrue : true = complete at h
  induction h with
  | complete => simp
  | stopped => cases htrue
  | @next first rest part others _ _ hdone _ ih =>
    refine List.forall_mem_cons.mpr ⟨⟨part, List.infix_append [] part others, hdone⟩, ?_⟩
    intro stage hstage
    obtain ⟨part', hpart', hdone'⟩ := ih htrue stage hstage
    exact ⟨part', hpart'.trans (List.suffix_append part others).isInfix, hdone'⟩

end Staged

def Follows (n : Node σ) (stages : List Stage) (moved : List Exchange → Prop) (a : ToolM σ α)
    (s : Equipped σ) : Prop :=
  ∃ xs, n.Leads s.node (a s).2.node xs ∧ Staged n stages xs (a s).1.isOk ∧
    ((a s).2.node.dumpPaths = s.node.dumpPaths ∨ moved xs)

section Follows

variable {n : Node σ} {rest : List Stage} {moved : List Exchange → Prop} {s : Equipped σ}

lemma follows_nil {a : NodeM σ α} (h : Emits n id [] (fun _ xs => xs = []) a)
    (hok : (a s.node).1.isOk = true) : Follows n [] moved (ToolM.onNode a) s := by
  obtain ⟨hkept, xs, hleads, -, hxs⟩ := h s.node
  rw [Follows, ToolM.onNode_apply]
  cases hout : (a s.node).1 with
  | error f =>
    rw [hout] at hok
    cases hok
  | ok x =>
    cases hxs x hout
    exact ⟨[], hleads, .complete, .inl hkept.dumpPaths⟩

variable {stage : Stage} {done : α → List Exchange → Prop} {a : ToolM σ α}

lemma Follows.skip (h : Follows n rest moved a s) (hdone : stage.done []) :
    Follows n (stage :: rest) moved a s := by
  obtain ⟨xs, hleads, hstaged, hmoved⟩ := h
  exact ⟨xs, hleads, .next (by simp) hdone hstaged, hmoved⟩

lemma Emits.follows_of {f : α → ToolM σ β} (ha : Emits n Equipped.node stage.asks done a)
    (hf : ∀ x xs t, a s = (.ok x, t) → done x xs → stage.done xs ∧ ∃ ys, n.Leads t.node (f x t).2.node ys ∧
      Staged n rest ys (f x t).1.isOk ∧
      ((f x t).2.node.dumpPaths = t.node.dumpPaths ∨ moved (xs ++ ys))) :
    Follows n (stage :: rest) moved (a >>= f) s := by
  obtain ⟨hkept, xs, hleads, hsends, hok⟩ := ha s
  rw [Follows, bind_apply]
  rcases hrun : a s with ⟨e | x, t⟩
  · rw [hrun] at hkept hleads
    exact ⟨xs, hleads, .stopped hsends, .inl hkept.dumpPaths⟩
  · rw [hrun] at hkept hleads
    obtain ⟨hdone, ys, hleads', hstaged, hmoved⟩ := hf x xs t hrun (hok x (congrArg Prod.fst hrun))
    refine ⟨xs ++ ys, hleads.trans hleads', .next hsends hdone hstaged, ?_⟩
    exact hmoved.imp_left fun h => h.trans hkept.dumpPaths

variable (hleft : ∀ xs ys, moved ys → moved (xs ++ ys))

include hleft

lemma Emits.follows {f : α → ToolM σ β} (ha : Emits n Equipped.node stage.asks done a)
    (hf : ∀ x xs t, a s = (.ok x, t) → done x xs → stage.done xs ∧ Follows n rest moved (f x) t) :
    Follows n (stage :: rest) moved (a >>= f) s := by
  refine ha.follows_of fun x xs t hrun hx => ?_
  obtain ⟨hdone, ys, hleads, hstaged, hmoved⟩ := hf x xs t hrun hx
  exact ⟨hdone, ys, hleads, hstaged, hmoved.imp_right (hleft xs ys)⟩

lemma Emits.follows_move {done : Option String → List Exchange → Prop} {a : ToolM σ (Option String)}
    {move : Option String → ToolM σ Unit} {f : Unit → ToolM σ β} {k : Kdump}
    (hright : ∀ xs ys, moved xs → moved (xs ++ ys)) (ha : Emits n Equipped.node stage.asks done a)
    (hdone : ∀ o xs, done o xs → stage.done xs ∧ ∀ path, o = some path → moved xs)
    (hnone : move none = pure ()) (hsome : ∀ path, move (some path) = ToolM.onNode (k.moveDumps path))
    (hf : ∀ t, Follows n rest moved (f ()) t) :
    Follows n (stage :: rest) moved (a >>= fun o => move o >>= f) s := by
  refine ha.follows_of fun o xs t _ ho => ?_
  obtain ⟨hstage, hmoved⟩ := hdone o xs ho
  cases o with
  | none =>
    obtain ⟨ys, hleads, hstaged, hpaths⟩ := hf t
    rw [hnone, pure_bind]
    exact ⟨hstage, ys, hleads, hstaged, hpaths.imp_right (hleft xs ys)⟩
  | some path =>
    obtain ⟨ys, hleads, hstaged, -⟩ := hf (ToolM.onNode (k.moveDumps path) t).2
    rw [hsome]
    exact ⟨hstage, ys, hleads, hstaged, .inr (hright xs ys (hmoved path rfl))⟩

end Follows

namespace Kdump

def rootShell (command : Except Fault String) : Ask := ⟨true, true, command⟩

def releaseAsk : Ask := ⟨false, false, .ok "uname -r"⟩

def optionAsk (release option : String) : Ask where
  command := (Shell.quote ("/boot/config-" ++ release)).map fun arg => "grep " ++ option ++ "=y " ++ arg

def replaceAsk (crashkernel file : String) : Ask :=
  .edit (Sed.substitution "crashkernel=[^[:space:]\"]*" (parameter crashkernel) (some parameterLines))
    file

def addAsk (crashkernel file : String) : Ask :=
  .edit (Sed.substitution "\"$" (" " ++ parameter crashkernel ++ "\"") (some parameterLines)) file

variable (k : Kdump) (n : Node σ)

def updates (crashkernel : String) : List String :=
  match k.variant.hooks.update with
  | .command line => [line]
  | .byFirmware =>
    if k.os.setsBootParameters then
      ["grubby --update-kernel=ALL --args=\"crashkernel=" ++ crashkernel ++ "\""]
    else ["grub2-mkconfig -o /boot/efi/EFI/redhat/grub.cfg", "grub2-mkconfig -o /boot/grub2/grub.cfg"]

def bootAsks (crashkernel : String) : List Ask :=
  (match k.variant.hooks.defaults.path? k.os with
    | some file => [replaceAsk crashkernel file, addAsk crashkernel file]
    | none => []) ++ (k.updates crashkernel).map (rootShell <| .ok ·)

def memoryAsk : Ask := rootShell (.ok "free -h | grep Mem | awk '\x7bprint $2\x7d'")

def moveAsks : List Ask := [
  rootShell ((Shell.quote k.settings.relocatedDumpPath).map ("mkdir -p " ++ ·)),
  .edit (Sed.substitution "path" "#path" (some "^path")) serviceConfig,
  .edit ("$a " ++ ("path " ++ k.settings.relocatedDumpPath)) serviceConfig]

def enableAsk : Ask := .control "enable" k.variant.hooks.service

def nmiFile : String := "/proc/sys/kernel/unknown_nmi_panic"

def nmiAsk : Ask := .parameter "kernel.unknown_nmi_panic" "1"

def releaseStage (release : String) : Stage where
  asks := [releaseAsk]
  done xs := ∃ output, n.Told releaseAsk xs output ∧ output.exitCode = 0 ∧
    release = trimmed (trimmed output.stdout)

def optionsStage (release : String) : Stage where
  asks := ["CONFIG_KEXEC", "CONFIG_CRASH_DUMP", "CONFIG_PROC_VMCORE"].map (optionAsk release)
  done xs := ∀ option ∈ ["CONFIG_KEXEC", "CONFIG_CRASH_DUMP", "CONFIG_PROC_VMCORE"],
    n.Confirmed (optionAsk release option) xs

def editStage (file crashkernel : String) : Stage where
  asks := [.test file, .release, .which "cat", .which "sed", .cat file, replaceAsk crashkernel file,
    addAsk crashkernel file]
  done xs := n.Confirmed (.test file) xs ∧
    (n.Confirmed (replaceAsk crashkernel file) xs ∨ n.Confirmed (addAsk crashkernel file) xs) ∧
    ∃ output, n.Told (.cat file) xs output ∧ output.exitCode = 0 ∧
      mentions (trimmed output.stdout) (parameter crashkernel) = true

def defaultsStage (crashkernel : String) : Stage :=
  match k.variant.hooks.defaults.path? k.os with
  | some file => editStage n file crashkernel
  | none => ⟨[], fun _ => True⟩

def updateStage (crashkernel : String) : Stage where
  asks := .test "/sys/firmware/efi" :: (k.updates crashkernel).map (rootShell <| .ok ·)
  done xs := ∃ line ∈ k.updates crashkernel, n.Confirmed (rootShell (.ok line)) xs

def Moved (xs : List Exchange) : Prop := ∀ a ∈ k.moveAsks, n.Confirmed a xs

def Exceeds (total : String) : Prop :=
  ∃ size, memoryTib? total = .ok (some size) ∧ ¬ size ≤ k.settings.largeMemoryTib

def moveStage : Stage where
  asks := memoryAsk :: .release :: .which "sed" :: k.moveAsks
  done xs := ∃ output, n.Told memoryAsk xs output ∧
    (k.Exceeds (trimmed (trimmed output.stdout)) → k.Moved n xs)

def relocationStage : Stage :=
  match k.variant.hooks.relocation with
  | .keep => ⟨[], fun _ => True⟩
  | .largeMemory => k.moveStage n

def serviceStage : Stage where
  asks := [.release, .which "systemctl", k.enableAsk]
  done xs := n.Confirmed k.enableAsk xs

def nmiStage : Stage where
  asks := [.test nmiFile, .release, .which "sysctl", nmiAsk]
  done xs := (∃ output, n.Told (.test nmiFile) xs output ∧ output.exitCode ≠ 0) ∨ n.Confirmed nmiAsk xs

def stages (crashkernel release : String) : List Stage :=
  [releaseStage n release, optionsStage n release, k.defaultsStage n crashkernel,
    k.updateStage n crashkernel, k.relocationStage n, k.serviceStage n, nmiStage n]

end Kdump

end HostProbe
