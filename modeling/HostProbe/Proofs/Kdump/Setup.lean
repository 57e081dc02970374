import HostProbe.Kdump.Session
import HostProbe.Proofs.Tool.Chores

/-! Setting up crash dumps. All of it respects what executing commands respects, save that dumps are
moved to one directory, and only in the families that move them. -/

namespace HostProbe

open NodeM Procedure

variable {σ : Type} {n : Node σ} {R : NodeState σ → NodeState σ → Prop} [IsPreorder (NodeState σ) R]

namespace Kdump

section Setup

variable (h : n.Respects R) (hstore : ∀ key result, Within R (Node.store (σ := σ) key result))
  (k : Kdump)

include h

lemma within_checkKernel (configPath : String) : Within R (checkKernel n configPath) := by
  refine (within_liftM _).bind fun arg => ?_
  induction requiredOptions with
  | nil => exact within_pure ()
  | cons option rest ih => exact (h.execute _ _).bind fun _ => ih

lemma within_updateCommand (crashkernel : String) : Within R (k.updateCommand n crashkernel) := by
  unfold updateCommand
  split
  · exact within_pure _
  · split
    · exact within_pure _
    · refine (h.pathExists _).bind fun firmware => ?_
      split
      · exact within_pure _
      · exact within_pure _

include hstore in
lemma upholds_editDefaults (file crashkernel : String) :
    (k.editDefaults n file crashkernel).Upholds R fun _ => True := by
  refine upholds_ofNode_bind (h.pathExists _) fun present => ?_
  -- What follows a conditional is shared by its branches, so it is treated once, before them.
  lift_lets
  extract_lets check edit
  have hcheck : ∀ u, (check u).Upholds R fun _ => True := by
    refine fun u => upholds_ofNode_bind (h.read hstore _ _ _) fun content => ?_
    split
    · exact upholds_throw _
    · exact upholds_pure trivial
  have hedit : ∀ u, (edit u).Upholds R fun _ => True := by
    refine fun u => upholds_tool_bind _ fun _ => upholds_tool_bind _ fun _ => ?_
    refine upholds_ofNode_bind (h.read hstore _ _ _) fun content => ?_
    split
    · exact upholds_ofNode_bind (h.edit _ _ _) hcheck
    · exact upholds_ofNode_bind (h.edit _ _ _) hcheck
  split
  · exact Upholds.bind (Q := fun _ => False) (upholds_throw _) fun _ => False.elim
  · exact hedit ()

include hstore in
lemma upholds_reserveMemory (crashkernel : String) :
    (k.reserveMemory n crashkernel).Upholds R fun _ => True := by
  unfold reserveMemory
  extract_lets opts update
  have hupdate : ∀ u, (update u).Upholds R fun _ => True := by
    refine fun u => upholds_ofNode_bind (within_updateCommand h k _) fun command => ?_
    exact upholds_ofNode_bind (h.execute _ _) fun _ => upholds_pure trivial
  split
  · exact (upholds_editDefaults h hstore k _ _).bind fun u _ => hupdate u
  · exact hupdate ()

lemma upholds_relocate : (k.relocate n).Upholds R fun moved =>
    ∀ path, moved = some path → path = k.settings.relocatedDumpPath := by
  refine upholds_ofNode_bind (h.execute _ _) fun result => ?_
  refine upholds_liftM_bind _ fun size? => ?_
  cases size? with
  | none => exact upholds_pure (by simp)
  | some size =>
    dsimp only
    split
    · exact upholds_pure (by simp)
    · refine upholds_ofNode_bind (h.within_log _ _ _) fun _ => upholds_liftM_bind _ fun arg => ?_
      refine upholds_ofNode_bind (h.execute _ _) fun _ => upholds_tool_bind _ fun _ => ?_
      refine upholds_ofNode_bind (h.edit _ _ _) fun _ => ?_
      refine upholds_ofNode_bind (h.edit _ _ _) fun _ => ?_
      refine upholds_pure fun path hpath => ?_
      exact (Option.some.inj hpath).symm

lemma upholds_configureDumpPath (hmove : k.variant.hooks.relocation = .largeMemory →
    Within R (k.moveDumps (σ := σ) k.settings.relocatedDumpPath)) :
    (k.configureDumpPath n).Upholds R fun _ => True := by
  unfold configureDumpPath
  split
  case h_1 => exact upholds_pure trivial
  case h_2 hrelocation =>
    refine (upholds_relocate h k).bind fun moved hmoved => ?_
    cases moved with
    | none => exact upholds_pure trivial
    | some path =>
      obtain rfl := hmoved path rfl
      exact upholds_ofNode (hmove hrelocation)

lemma upholds_enableService : (k.enableService n).Upholds R fun _ => True :=
  upholds_tool_bind _ fun _ => upholds_ofNode (h.control _ _)

lemma upholds_panicOnNmi : (panicOnNmi n).Upholds R fun _ => True := by
  refine upholds_ofNode_bind (h.pathExists _) fun present => upholds_ifThen ?_
  exact upholds_tool_bind _ fun _ => upholds_ofNode (h.writeParameter _ _)

include hstore in
lemma upholds_configure (s : KdumpSession) (hmove : s.kdump.variant.hooks.relocation = .largeMemory →
    Within R (s.kdump.moveDumps (σ := σ) s.kdump.settings.relocatedDumpPath)) :
    (s.configure n).Upholds R fun s' => s'.kdump = s.kdump := by
  have hprepare : (s.prepare n).Upholds R fun _ => True := by
    refine upholds_ofNode_bind (h.execute _ _) fun release => ?_
    refine upholds_ofNode_bind (within_checkKernel h _) fun _ => ?_
    refine (upholds_reserveMemory h hstore s.kdump _).bind fun _ _ => ?_
    refine (upholds_configureDumpPath h s.kdump hmove).bind fun _ _ => ?_
    exact (upholds_enableService h s.kdump).bind fun _ _ => upholds_panicOnNmi h
  refine hprepare.bind fun _ _ => ?_
  refine upholds_ofNode_of ((h.within_log _ _ _).bind fun _ => within_pure _) ?_
  rintro st x ⟨⟩
  rfl

end Setup

end Kdump

end HostProbe
