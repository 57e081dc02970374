import HostProbe.Proofs.Kdump.Defaults

/-! Setting up crash dumps follows its stages. -/

namespace HostProbe

open HostProbe.Text NodeM Procedure

variable {σ α β : Type} {n : Node σ} {asks : List Ask}

namespace Kdump

variable (k : Kdump) (c : Config)

lemma emits_release (n : Node σ) (message : String) :
    Emits n id [releaseAsk]
      (fun result xs => ∃ output, n.Told releaseAsk xs output ∧ output.exitCode = 0 ∧
        result.stdout = trimmed output.stdout)
      (n.execute "uname -r" (ExecOptions.successOr { noInfoLog := true } message)) := by
  have hask : releaseAsk ∈ [releaseAsk] := List.mem_cons_self
  refine (Node.emits_execute hask).mono (List.Subset.refl _) ?_
  rintro result _ ⟨xs, x, rfl, hx⟩
  obtain ⟨output, htold, hstdout, hcode⟩ := hx.told xs
  exact ⟨output, htold, hcode ▸ hx.code 0 rfl, hstdout⟩

lemma emits_requireOptions {release arg : String}
    (harg : Shell.quote ("/boot/config-" ++ release) = .ok arg) (options : List String)
    (h : ∀ option ∈ options, optionAsk release option ∈ asks) :
    Emits n id asks (fun _ xs => ∀ option ∈ options, n.Confirmed (optionAsk release option) xs)
      (requireOptions n arg options) := by
  induction options with
  | nil => exact emits_pure (by simp)
  | cons option rest ih =>
    obtain ⟨hoption, hrest⟩ := List.forall_mem_cons.mp h
    let opts : ExecOptions := { noInfoLog := true }
    have hask : optionAsk release option =
        (opts.successOr ("The kernel config " ++ option ++ " is not set. Kdump is not supported.")).ask
          ("grep " ++ option ++ "=y " ++ arg) := by
      rw [optionAsk, harg]
      rfl
    refine (Node.emits_execute (hask ▸ hoption)).bind fun result _ hresult => ?_
    obtain ⟨xs, x, rfl, hx⟩ := hresult
    have hconfirmed : n.Confirmed (optionAsk release option) (xs ++ [x]) := hask ▸ hx.confirmed xs
    refine (ih hrest).mono (List.Subset.refl _) fun _ ys hys => ?_
    exact List.forall_mem_cons.mpr ⟨hconfirmed.append_right ys, fun o ho => (hys o ho).append_left _⟩

lemma emits_checkKernel {release : String}
    (h : ∀ option ∈ requiredOptions, optionAsk release option ∈ asks) :
    Emits n id asks
      (fun _ xs => ∀ option ∈ requiredOptions, n.Confirmed (optionAsk release option) xs)
      (checkKernel n ("/boot/config-" ++ release)) := by
  refine (emits_liftM _).bind fun arg xs harg => ?_
  obtain ⟨harg, rfl⟩ := harg
  exact emits_requireOptions harg requiredOptions h

lemma emits_editDefaults (file crashkernel : String) :
    Emits n Equipped.node (editStage n file crashkernel).asks
      (fun _ xs => (editStage n file crashkernel).done xs)
      ((k.editDefaults n file crashkernel).run (builtInTools c n)) := by
  rw [run_editDefaults]
  refine (emits_rewriteDefaults c file crashkernel).bind fun content _ hrewritten => ?_
  obtain ⟨before, xs, first, rfl, hpresent, -, hedited, hlast⟩ := hrewritten
  obtain ⟨output, htold, hcode, rfl⟩ := hlast.told
  refine (emits_liftM _).mono (List.Subset.refl _) fun _ ys hmention => ?_
  obtain ⟨hmention, rfl⟩ := hmention
  rw [List.append_nil]
  refine ⟨hpresent.append_right xs, ?_, output, htold.append_left before, hcode,
    requireMention_eq_ok.mp hmention⟩
  exact (edit_of_edition hedited).imp (fun h => h.append_right xs) fun h => h.append_right xs

lemma emits_updateCommand {crashkernel : String} (h : .test "/sys/firmware/efi" ∈ asks) :
    Emits n id asks (fun command _ => command ∈ k.updates crashkernel)
      (k.updateCommand n crashkernel) := by
  unfold updateCommand updates
  cases k.variant.hooks.update with
  | command line => exact emits_pure (by simp)
  | byFirmware =>
    cases k.os.setsBootParameters with
    | true => exact emits_pure (by simp)
    | false =>
      refine (Node.emits_pathExists h).bind fun firmware _ _ => ?_
      cases firmware with
      | true => exact emits_pure (by simp)
      | false => exact emits_pure (by simp)

lemma emits_rootShell {command message : String} (h : rootShell (.ok command) ∈ asks) :
    Emits n id asks (fun _ xs => n.Confirmed (rootShell (.ok command)) xs)
      (n.execute command (ExecOptions.successOr { asRoot := true, shell := true } message)) := by
  refine (Node.emits_execute h).mono (List.Subset.refl _) ?_
  rintro result _ ⟨ys, x, rfl, hx⟩
  exact hx.confirmed ys

section Follows

variable {rest : List Stage} {moved : List Exchange → Prop} {s : Equipped σ}
  (hleft : ∀ xs ys, moved ys → moved (xs ++ ys))

include hleft

lemma follows_reserveMemory (crashkernel : String) {f : Unit → ToolM σ β}
    (hf : ∀ t, Follows n rest moved (f ()) t) :
    Follows n (k.defaultsStage n crashkernel :: k.updateStage n crashkernel :: rest) moved
      ((k.reserveMemory n crashkernel).run (builtInTools c n) >>= f) s := by
  unfold reserveMemory
  extract_lets opts update
  have hupdate : ∀ u t, Follows n (k.updateStage n crashkernel :: rest) moved
      ((update u).run (builtInTools c n) >>= f) t := by
    intro u t
    have hemits : Emits n Equipped.node (k.updateStage n crashkernel).asks
        (fun _ xs => (k.updateStage n crashkernel).done xs) ((update u).run (builtInTools c n)) := by
      simp only [update, run_bind, run_ofNode]
      refine (emits_updateCommand k ?_).onNode.bind fun command toChoose hcommand => ?_
      · simp [updateStage]
      · refine (emits_rootShell ?_).onNode.bind fun result xs hconfirmed => emits_pure ?_
        · simpa [updateStage] using .inr ⟨command, hcommand, rfl⟩
        · exact ⟨command, hcommand, (hconfirmed.append_right []).append_left toChoose⟩
    exact Emits.follows hleft hemits fun u xs t _ hdone => ⟨hdone, hf t⟩
  rw [defaultsStage]
  cases k.variant.hooks.defaults.path? k.os with
  | some file =>
    dsimp only
    rw [run_bind, bind_assoc]
    exact (emits_editDefaults k c file crashkernel).follows hleft fun u xs t _ hdone =>
      ⟨hdone, hupdate u t⟩
  | none => exact (hupdate () s).skip trivial

end Follows

lemma Moved.append_left {k : Kdump} {ys : List Exchange} (h : k.Moved n ys) (xs : List Exchange) :
    k.Moved n (xs ++ ys) := fun a ha => (h a ha).append_left xs

lemma Moved.append_right {k : Kdump} {xs : List Exchange} (h : k.Moved n xs) (ys : List Exchange) :
    k.Moved n (xs ++ ys) := fun a ha => (h a ha).append_right ys

lemma emits_relocate : Emits n Equipped.node (k.moveStage n).asks
    (fun o xs => (k.moveStage n).done xs ∧ ∀ path, o = some path → k.Moved n xs)
    ((k.relocate n).run (builtInTools c n)) := by
  unfold relocate
  simp only [run_bind, run_ofNode, run_liftM]
  have hmemory : memoryAsk ∈ (k.moveStage n).asks := List.mem_cons_self
  refine (Node.emits_execute hmemory).onNode.bind fun result toTell hresult => ?_
  obtain ⟨before, x, rfl, hx⟩ := hresult
  obtain ⟨output, htold, hstdout, -⟩ := hx.told before
  refine (emits_liftM _).bind fun size? toRead hsize => ?_
  obtain ⟨hsize, rfl⟩ := hsize
  -- Where the dumps stay, the memory that was told does not exceed what the directory is good for.
  have hstay : (∀ size, size? = some size → size ≤ k.settings.largeMemoryTib) →
      Emits n Equipped.node (k.moveStage n).asks
        (fun (o : Option String) xs => (k.moveStage n).done (before ++ [x] ++ ([] ++ xs)) ∧
          ∀ path, o = some path → k.Moved n (before ++ [x] ++ ([] ++ xs))) (pure none) := by
    intro h
    refine emits_pure ⟨⟨output, htold.append_right _, ?_⟩, nofun⟩
    rintro ⟨size, hread, hexceeds⟩
    rw [hstdout, hread] at hsize
    exact absurd (h size (Except.ok.inj hsize).symm) hexceeds
  cases size? with
  | none => exact hstay nofun
  | some size =>
    dsimp only
    split
    · next hle => exact hstay fun _ h => Option.some.inj h ▸ hle
    · simp only [run_bind, run_ofNode]
      refine Emits.mono (?_ : Emits n Equipped.node _ (fun _ xs => k.Moved n xs) _)
        (List.Subset.refl _) fun o xs hmoved =>
          have hall := (hmoved.append_left []).append_left (before ++ [x])
          ⟨⟨output, htold.append_right _, fun _ => hall⟩, fun _ _ => hall⟩
      refine (Node.emits_log _ _ _).onNode.bind fun _ toLog _ => ?_
      refine (emits_liftM _).bind fun arg toQuote harg => ?_
      obtain ⟨harg, rfl⟩ := harg
      have hmake : rootShell (.ok ("mkdir -p " ++ arg)) ∈ (k.moveStage n).asks := by
        simp [moveStage, moveAsks, harg, Except.map]
      refine (emits_rootShell hmake).onNode.bind fun _ toMake hmade => ?_
      refine (emits_tool c (by simp [moveStage]) (by simp [moveStage]) rfl).bind fun _ toSed _ => ?_
      refine (Node.emits_edit (by simp [moveStage, moveAsks])).onNode.bind fun _ toSet hset => ?_
      refine (Node.emits_edit (by simp [moveStage, moveAsks])).onNode.bind fun _ toAdd hadded => ?_
      refine emits_pure ?_
      have hlast : k.Moved n (toMake ++ (toSed ++ (toSet ++ (toAdd ++ [])))) := by
        simp only [Moved, moveAsks, harg, Except.map, List.forall_mem_cons]
        refine ⟨hmade.append_right _, ?_, ?_, by simp⟩
        · exact ((hset.append_right _).append_left toSed).append_left toMake
        · exact (((hadded.append_right _).append_left toSet).append_left toSed).append_left toMake
      exact (hlast.append_left []).append_left toLog

section Follows

variable {rest : List Stage} {s : Equipped σ} {f : Unit → ToolM σ β}

lemma follows_configureDumpPath (hf : ∀ t, Follows n rest (k.Moved n) (f ()) t) :
    Follows n (k.relocationStage n :: rest) (k.Moved n)
      ((k.configureDumpPath n).run (builtInTools c n) >>= f) s := by
  unfold configureDumpPath relocationStage
  cases k.variant.hooks.relocation with
  | keep => exact (hf s).skip trivial
  | largeMemory =>
    dsimp only
    rw [run_bind, bind_assoc]
    exact Emits.follows_move (fun xs _ h => h.append_left xs) (fun _ ys h => h.append_right ys)
      (emits_relocate k c) (fun _ _ h => h) rfl (fun _ => rfl) hf

end Follows

lemma emits_enableService : Emits n Equipped.node (k.serviceStage n).asks
    (fun _ xs => (k.serviceStage n).done xs) ((k.enableService n).run (builtInTools c n)) := by
  unfold enableService
  rw [run_bind]
  refine (emits_tool c (by simp [serviceStage]) (by simp [serviceStage]) rfl).bind
    fun _ toService _ => ?_
  refine (Node.emits_control (by simp [serviceStage, enableAsk])).onNode.mono (List.Subset.refl _) ?_
  exact fun _ xs hconfirmed => hconfirmed.append_left toService

lemma emits_panicOnNmi : Emits n Equipped.node (nmiStage n).asks (fun _ xs => (nmiStage n).done xs)
    ((panicOnNmi n).run (builtInTools c n)) := by
  unfold panicOnNmi
  simp only [run_bind, run_ofNode]
  refine (Node.emits_pathExists (by simp [nmiStage, nmiFile])).onNode.bind fun present toTest htest => ?_
  obtain ⟨output, htold, rfl⟩ := htest
  cases hcode : output.exitCode == 0 with
  | false =>
    have hfailed : output.exitCode ≠ 0 := by simpa using hcode
    exact emits_pure (.inl ⟨output, htold.append_right [], hfailed⟩)
  | true =>
    rw [if_pos rfl, run_bind]
    refine (emits_tool c (by simp [nmiStage]) (by simp [nmiStage]) rfl).bind fun _ toSysctl _ => ?_
    have hwrite : nmiAsk ∈ (nmiStage n).asks := by simp [nmiStage]
    refine (Node.emits_writeParameter hwrite).onNode.mono (List.Subset.refl _) ?_
    exact fun _ xs hconfirmed => .inr ((hconfirmed.append_left toSysctl).append_left toTest)

lemma follows_configure (k : KdumpSession) (s : Equipped σ) :
    ∃ release, Follows n (k.kdump.stages n k.crashkernel release) (k.kdump.Moved n)
      ((k.configure n).run (builtInTools c n)) s := by
  simp only [KdumpSession.configure, KdumpSession.prepare, run_bind, run_ofNode, bind_assoc]
  have hleft : ∀ xs ys, k.kdump.Moved n ys → k.kdump.Moved n (xs ++ ys) := fun xs _ h => h.append_left xs
  have hrest : ∀ release t, Follows n (k.kdump.stages n k.crashkernel release).tail (k.kdump.Moved n)
      (do
        ToolM.onNode (checkKernel n ("/boot/config-" ++ release))
        (k.kdump.reserveMemory n k.crashkernel).run (builtInTools c n)
        (k.kdump.configureDumpPath n).run (builtInTools c n)
        (k.kdump.enableService n).run (builtInTools c n)
        (panicOnNmi n).run (builtInTools c n)
        ToolM.onNode (k.advance n .pendingReboot)) t := by
    intro release t
    have hoptions : ∀ option ∈ requiredOptions,
        optionAsk release option ∈ (optionsStage n release).asks := fun _ h => List.mem_map_of_mem h
    refine (emits_checkKernel hoptions).onNode.follows hleft fun _ _ _ _ hdone => ⟨hdone, ?_⟩
    refine follows_reserveMemory k.kdump c hleft k.crashkernel fun _ => ?_
    refine follows_configureDumpPath k.kdump c fun _ => ?_
    refine (emits_enableService k.kdump c).follows hleft fun _ _ _ _ hdone => ⟨hdone, ?_⟩
    refine (emits_panicOnNmi c).follows hleft fun _ _ _ _ hdone => ⟨hdone, ?_⟩
    refine follows_nil ?_ rfl
    exact (Node.emits_log _ _ _).bind fun _ xs hxs => emits_pure (by simpa using hxs)
  have hread := (emits_release n "failed to read the kernel release").onNode
  rcases hrun : ToolM.onNode (n.execute "uname -r" _) s with ⟨f | result, t⟩
  · refine ⟨"", hread.follows hleft fun _ _ _ hok => ?_⟩
    cases hrun.symm.trans hok
  · refine ⟨trimmed result.stdout, hread.follows hleft fun _ _ _ hok hdone => ?_⟩
    cases hrun.symm.trans hok
    obtain ⟨output, htold, hcode, hstdout⟩ := hdone
    exact ⟨⟨output, htold, hcode, by rw [hstdout]⟩, hrest _ _⟩

end Kdump

end HostProbe
