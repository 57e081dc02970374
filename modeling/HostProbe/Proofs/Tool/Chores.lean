import HostProbe.Proofs.Tool.Upkeep
import HostProbe.Tool.BuiltIn

/-! What the built-in tools do to a node. Their commands respect what executing commands respects, and
installing them takes no more than such commands; so do all resolutions from the built-in entries. -/

namespace HostProbe

open NodeM

variable {σ : Type} {n : Node σ} {R : NodeState σ → NodeState σ → Prop} [IsPreorder (NodeState σ) R]

namespace Node.Respects

section Commands

variable (h : n.Respects R)

include h

lemma read (hstore : ∀ key result, Within R (Node.store (σ := σ) key result)) (path : String)
    (asRoot force : Bool) : Within R (Cat.read n path asRoot force) :=
  (within_liftM _).bind fun _ =>
    (h.executeCached (fun key result s _ => hstore key result s) _ _).bind fun _ => within_pure _

lemma edit (expression file : String) (asRoot : Bool) : Within R (Sed.edit n expression file asRoot) :=
  (within_liftM _).bind fun _ => (within_liftM _).bind fun _ => (h.execute _ _).bind fun _ =>
    within_pure _

lemma control (action name : String) : Within R (Service.control n action name) :=
  (within_liftM _).bind fun _ => (h.execute _ _).bind fun _ => within_pure _

lemma writeParameter (name value : String) : Within R (Sysctl.write n name value) :=
  (within_liftM _).bind fun _ => (h.execute _ _).bind fun _ => within_pure _

lemma download (url dir : String) (fileName : Option String) (asRoot : Bool) :
    Within R (Wget.get n url dir fileName false asRoot) := by
  refine (within_liftM _).bind fun name => (h.pathExists _).bind fun present => ?_
  dsimp only
  split
  · exact within_pure _
  · exact (within_liftM _).bind fun _ => (within_liftM _).bind fun _ => (within_liftM _).bind fun _ =>
      (h.execute _ _).bind fun _ => within_pure _

lemma extract (file dest : String) (gzip asRoot : Bool) :
    Within R (Tar.extract n file dest gzip asRoot) :=
  (within_liftM _).bind fun _ => (within_liftM _).bind fun _ => (h.execute _ _).bind fun _ =>
    within_pure _

lemma rootFolder (file : String) : Within R (Tar.rootFolder n file) := by
  refine (within_liftM _).bind fun _ => (h.execute _ _).bind fun _ => ?_
  split
  · exact within_pure _
  · exact within_throw _

lemma makeInstall (dir : String) (asRoot : Bool) : Within R (Make.install n dir asRoot) :=
  (h.execute _ _).bind fun _ => within_pure _

lemma refresh (kind : PackageKind) : Within R (n.refresh kind) := by
  unfold Node.refresh
  split
  · exact (h.execute _ _).bind fun _ => within_pure _
  · exact within_pure _

lemma ensureFresh (kind : PackageKind) : Within R (n.ensureFresh kind) := by
  intro s
  obtain hdone | ⟨packages, packages', out, rfl, hrun⟩ := n.ensureFresh_apply kind s
  · rw [hdone]
    exact refl s
  · rw [hrun]
    have hmarked := h.packages s packages
    have hrefresh := h.refresh kind { s with packages }
    exact IsTrans.trans _ _ _ (IsTrans.trans _ _ _ hmarked hrefresh) (h.packages _ packages')

lemma installWith (kind : PackageKind) (packages : List String) :
    Within R (n.installWith kind packages) := by
  unfold Node.installWith
  split
  · exact within_pure ()
  · refine (h.ensureFresh kind).bind fun _ => (within_liftM _).bind fun args =>
      (h.within_log _ _ _).bind fun _ => (h.execute _ _).bind fun result => ?_
    split
    · exact (within_liftM _).bind fun _ => within_pure _
    · exact within_throw _

lemma installPackages (packages : List String) : Within R (n.installPackages packages) :=
  h.packageManager.bind fun kind => h.installWith kind packages

end Commands

end Node.Respects

namespace Procedure

omit [IsPreorder (NodeState σ) R] in
lemma upholds_ifThen {c : Prop} [Decidable c] {p : Procedure σ Unit} (hp : p.Upholds R fun _ => True) :
    (if c then p else pure ()).Upholds R fun _ => True := by
  split
  · exact hp
  · exact upholds_pure trivial

end Procedure

section Install

open Procedure

structure Node.Hosts (n : Node σ) (R : NodeState σ → NodeState σ → Prop) : Prop where
  logs s logs : R s { s with logs }
  os : Within R n.os
  commandExists command : Within R (n.commandExists command)
  installPackages packages : Within R (n.installPackages packages)
  version : Within R (Kexec.version n)
  download url dir fileName asRoot : Within R (Wget.get n url dir fileName false asRoot)
  extract file dest gzip asRoot : Within R (Tar.extract n file dest gzip asRoot)
  rootFolder file : Within R (Tar.rootFolder n file)
  configure opts : Within R (n.execute "./configure" opts)
  makeInstall dir asRoot : Within R (Make.install n dir asRoot)
  replace opts : Within R (n.execute "yes | cp -f /usr/local/sbin/kexec /sbin/" opts)

section Hosts

omit [IsPreorder (NodeState σ) R]

variable (h : n.Hosts R)

include h

lemma Tool.upholds_installPackages (packages : List String) (t : Tool) :
    (Tool.installPackages packages n t).Upholds R fun _ => True :=
  upholds_ofNode (h.installPackages packages)

lemma Tool.upholds_installCommand (ref : ToolRef) (command : String) (package : Option String)
    (t : Tool) : ((Tool.commandEntry ref command package).install n t).Upholds R fun _ => True := by
  cases package with
  | some p => exact Tool.upholds_installPackages h [p] t
  | none => exact upholds_throw _

lemma Kexec.upholds_installFromSource : (Kexec.installFromSource n).Upholds R fun _ => True := by
  refine upholds_ofNode_bind (fun s => h.logs s _) fun _ => upholds_tool_bind _ fun _ => ?_
  refine upholds_ofNode_bind (h.download _ _ _ _) fun archive => upholds_tool_bind _ fun _ => ?_
  refine upholds_ofNode_bind (h.extract _ _ _ _) fun _ => ?_
  refine upholds_ofNode_bind (h.rootFolder _) fun root => upholds_tool_bind _ fun _ => ?_
  refine upholds_ofNode_bind (h.configure _) fun _ => upholds_tool_bind _ fun _ => ?_
  refine upholds_ofNode_bind (h.makeInstall _ _) fun _ => ?_
  exact upholds_ofNode_bind (h.replace _) fun _ => upholds_pure trivial

lemma Kexec.upholds_install (t : Tool) : (Kexec.install n t).Upholds R fun _ => True := by
  refine upholds_ofNode_bind (h.installPackages _) fun _ => ?_
  split
  · exact upholds_ofNode_bind h.version fun v => upholds_ifThen (upholds_installFromSource h)
  · exact upholds_pure trivial

lemma Kexec.upholds_installMakedumpfile (t : Tool) :
    (Kexec.installMakedumpfile n t).Upholds R fun _ => True := by
  unfold Kexec.installMakedumpfile
  split
  · exact upholds_ofNode (h.installPackages _)
  · exact upholds_pure trivial

lemma Kdump.upholds_install (t : Tool) : (Kdump.entry.install n t).Upholds R fun _ => True := by
  dsimp only [Kdump.entry]
  split
  · exact upholds_ofNode (h.installPackages _)
  · exact upholds_throw _

lemma ToolRegistry.upholds_builtIn : ∀ e ∈ builtInEntries (σ := σ), ∀ t,
    (e.probe n t).Upholds R (fun _ => True) ∧ (e.install n t).Upholds R fun _ => True := by
  have hprobe : ∀ e ∈ builtInEntries (σ := σ), e.probe = Tool.probeCommand := by
    simp [builtInEntries, Tool.commandEntry, Kexec.entry, Kexec.makedumpfileEntry, Kdump.entry,
      Chrony.entry]
  have hcommand := Tool.upholds_installCommand h
  have hpackage := Tool.upholds_installPackages h
  have hinstall : ∀ e ∈ builtInEntries (σ := σ), ∀ t, (e.install n t).Upholds R fun _ => True := by
    simp only [builtInEntries, List.forall_mem_cons]
    exact ⟨hcommand _ _ _, hcommand _ _ _, hcommand _ _ _, hcommand _ _ _, hcommand _ _ _,
      hcommand _ _ _, hcommand _ _ _, hcommand _ _ _, hcommand _ _ _, hcommand _ _ _,
      Kexec.upholds_install h, Kexec.upholds_installMakedumpfile h, Kdump.upholds_install h,
      hcommand _ _ _, hcommand _ _ _, hcommand _ _ _, hpackage ["chrony"], hcommand _ _ _,
      hcommand _ _ _, hcommand _ _ _, by simp⟩
  refine fun e he t => ⟨?_, hinstall e he t⟩
  rw [hprobe e he]
  exact upholds_ofNode (h.commandExists t.command)

end Hosts

variable (h : n.Respects R) (hstore : ∀ key result, Within R (Node.store (σ := σ) key result))

include h

include hstore in
lemma Kexec.within_version : Within R (Kexec.version n) :=
  (h.executeCached (fun key result s _ => hstore key result s) _ _).bind fun _ =>
    (within_liftM _).bind fun _ => (within_liftM _).bind fun _ =>
      (h.within_log _ _ _).bind fun _ => within_pure _

lemma Node.Respects.hosts (hversion : Within R (Kexec.version n)) : n.Hosts R where
  logs := h.logs
  os := h.detectedOs
  commandExists := h.commandExists
  installPackages := h.installPackages
  version := hversion
  download := h.download
  extract := h.extract
  rootFolder := h.rootFolder
  configure := h.execute _
  makeInstall := h.makeInstall
  replace := h.execute _

lemma ToolRegistry.respects_builtIn_of (hversion : Within R (Kexec.version n)) (c : Config) :
    (builtIn c).Respects n R where
  node := h
  probe e he t := (upholds_builtIn (h.hosts hversion) e he t).1
  install e he t := (upholds_builtIn (h.hosts hversion) e he t).2

include hstore in
lemma ToolRegistry.respects_builtIn (c : Config) : (builtIn c).Respects n R :=
  respects_builtIn_of h (Kexec.within_version h hstore) c

end Install

end HostProbe
