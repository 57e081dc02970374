import HostProbe.Proofs.Node.Cache
import HostProbe.Proofs.Node.Outcome
import HostProbe.Proofs.Package.Command
import HostProbe.Tool.BuiltIn

/-! What a node does beside managing packages: connecting and closing, telling its system, choosing its
package manager, and running commands that begin otherwise than those of package managers. No line of a
package manager is sent by that, and no view of the repositories gets fresh. -/

namespace HostProbe

open Node NodeM

variable {σ : Type} {n : Node σ} {s t u : NodeState σ}

structure Node.Aside (n : Node σ) (s t : NodeState σ) : Prop where
  hands : n.Hands n.Apart s t
  manager : t.packages = s.packages ∨ s.packages = none ∧ ∃ kind, t.packages = some (kind, .fresh)

namespace Node

lemma aside_of_leads (h : n.Leads s t []) (hmanager : t.packages = s.packages) : n.Aside s t :=
  ⟨.of_leads h, .inl hmanager⟩

lemma Aside.trans (h : n.Aside s t) (h' : n.Aside t u) : n.Aside s u := by
  refine ⟨h.hands.trans h'.hands, ?_⟩
  obtain hsame | ⟨hnone, kind, hkind⟩ := h.manager
  · rw [← hsame]
    exact h'.manager
  · obtain hsame | ⟨hnone', -⟩ := h'.manager
    · exact .inr ⟨hnone, kind, hsame.trans hkind⟩
    · cases hkind.symm.trans hnone'

instance (n : Node σ) : IsPreorder (NodeState σ) n.Aside where
  refl _ := aside_of_leads (leads_of_eq rfl rfl) rfl
  trans _ _ _ := .trans

section Operations

lemma aside_log (level : LogLevel) (message : String) (fields : List (String × String)) :
    Within n.Aside (log level message fields) := fun _ => aside_of_leads (leads_of_eq rfl rfl) rfl

lemma aside_connect : Within n.Aside n.connect :=
  fun s => aside_of_leads (leads_connect s) (sameFacts_connect s).manager

lemma aside_close : Within n.Aside n.close :=
  fun s => aside_of_leads (leads_close s) (sameFacts_close s).manager

variable {command : String} {opts : ExecOptions}

lemma aside_execute (h : IsForeign command) : Within n.Aside (n.execute command opts) := by
  intro s
  have hcases := execute_cases (n := n) command opts s
  generalize n.execute command opts s = out at hcases ⊢
  cases hcases with
  | stopped hleads hasked hmanager _ =>
    exact ⟨⟨_, hleads, fun x hx => apart_of_asksSudo (hasked x hx)⟩, .inl hmanager⟩
  | answered hleads hasked hmanager hline =>
    refine ⟨⟨_, hleads, List.forall_mem_append.mpr ⟨fun x hx => apart_of_asksSudo (hasked x hx), ?_⟩⟩,
      .inl hmanager⟩
    exact List.forall_mem_singleton.mpr (apart_of_isForeign h hline)

lemma aside_executeCached (h : IsForeign command) : Within n.Aside (n.executeCached command opts) := by
  intro s
  have hcases := n.executeCached_cases command opts s
  have hexecute : n.Aside s (n.execute command opts s).2 := aside_execute h s
  generalize n.executeCached command opts s = out at hcases ⊢
  cases hcases with
  | refused _ => exact refl s
  | served _ _ => exact refl s
  | failed _ _ hrun => exact hrun ▸ hexecute
  | ran _ _ hrun =>
    rw [hrun] at hexecute
    exact hexecute.trans (aside_of_leads (leads_of_eq rfl rfl) rfl)

lemma aside_pathExists (path : String) : Within n.Aside (n.pathExists path) :=
  (within_liftM _).bind fun _ =>
    (aside_execute (isForeign_of_start "test -e " (by decide +kernel) (by simp))).bind fun _ =>
      within_pure _

lemma aside_commandExists (command : String) : Within n.Aside (n.commandExists command) :=
  (within_liftM _).bind fun _ =>
    (aside_execute (isForeign_of_start "command -v " (by decide +kernel) (by simp))).bind fun _ =>
      within_pure _

lemma aside_os : Within n.Aside n.os := by
  have hforeign : IsForeign "cat /etc/os-release" := by
    simp only [IsForeign]
    decide +kernel
  refine within_get.bind fun s => ?_
  cases s.os with
  | some os => exact within_pure os
  | none =>
    refine Within.bind ((aside_execute hforeign).bind fun result => ?_) fun os =>
      (aside_log _ _ _).bind fun _ => Within.bind ?_ fun _ => within_pure _
    · split
      · exact within_pure _
      · exact (aside_log _ _ _).bind fun _ => within_pure _
    · exact fun _ => aside_of_leads (leads_of_eq rfl rfl) rfl

/-- How a package manager is told: it was chosen before, or it is chosen now; or the system has none. -/
inductive Managed (n : Node σ) (s : NodeState σ) : Except Fault PackageKind × NodeState σ → Prop where
  | known {kind : PackageKind} {view : Once} (hknown : s.packages = some (kind, view)) :
      Managed n s (.ok kind, s)
  | chosen {kind : PackageKind} {t : NodeState σ} (hunknown : s.packages = none) (haside : n.Aside s t)
      (hkind : t.packages = some (kind, .fresh)) : Managed n s (.ok kind, t)
  | failed {f : Fault} {t : NodeState σ} (haside : n.Aside s t) : Managed n s (.error f, t)

lemma packageManager_cases (s : NodeState σ) : n.Managed s (n.packageManager s) := by
  rw [packageManager, bind_of_ok (get_apply s)]
  cases hpackages : s.packages with
  | some p => exact .known hpackages
  | none =>
    have hos := aside_os (n := n) s
    dsimp only
    rcases hrun : n.os s with ⟨f | os, t⟩
    · rw [hrun] at hos
      rw [bind_of_error hrun]
      exact .failed hos
    · rw [hrun] at hos
      rw [bind_of_ok hrun]
      cases hkind : PackageKind.ofOs os with
      | error f => exact .failed hos
      | ok kind =>
        refine .chosen hpackages ?_ rfl
        exact ⟨hos.hands.trans (.of_leads (leads_of_eq rfl rfl)), .inr ⟨hpackages, kind, rfl⟩⟩

lemma aside_packageManager : Within n.Aside n.packageManager := by
  intro s
  have hcases := packageManager_cases (n := n) s
  generalize n.packageManager s = out at hcases ⊢
  cases hcases with
  | known _ => exact refl s
  | chosen _ haside _ => exact haside
  | failed haside => exact haside

end Operations

end Node

section Source

variable (n)

lemma aside_download (url dir : String) (fileName : Option String) (asRoot : Bool) :
    Within n.Aside (Wget.get n url dir fileName false asRoot) := by
  refine (within_liftM _).bind fun name => (aside_pathExists _).bind fun present => ?_
  dsimp only
  split
  · exact within_pure _
  · refine (within_liftM _).bind fun _ => (within_liftM _).bind fun _ => (within_liftM _).bind fun _ =>
      Within.bind ?_ fun _ => within_pure _
    exact aside_execute (isForeign_of_start "mkdir -p " (by decide +kernel) (by simp))

lemma aside_extract (file dest : String) (gzip asRoot : Bool) :
    Within n.Aside (Tar.extract n file dest gzip asRoot) := by
  refine (within_liftM _).bind fun _ => (within_liftM _).bind fun _ => Within.bind ?_ fun _ =>
    within_pure _
  exact aside_execute (isForeign_of_start "mkdir -p " (by decide +kernel) (by simp))

lemma aside_rootFolder (file : String) : Within n.Aside (Tar.rootFolder n file) := by
  refine (within_liftM _).bind fun _ => Within.bind ?_ fun _ => ?_
  · exact aside_execute (isForeign_of_start "tar tf " (by decide +kernel) (by simp))
  · split
    · exact within_pure _
    · exact within_throw _

lemma aside_makeInstall (dir : String) (asRoot : Bool) :
    Within n.Aside (Make.install n dir asRoot) := by
  refine Within.bind (aside_execute ?_) fun _ => within_pure _
  simp only [IsForeign]
  decide +kernel

lemma aside_version : Within n.Aside (Kexec.version n) := by
  have hforeign : IsForeign "kexec -v" := by
    simp only [IsForeign]
    decide +kernel
  exact (aside_executeCached hforeign).bind fun _ => (within_liftM _).bind fun _ =>
    (within_liftM _).bind fun _ => (aside_log _ _ _).bind fun _ => within_pure _

end Source

end HostProbe
