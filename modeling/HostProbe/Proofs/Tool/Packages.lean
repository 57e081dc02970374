import HostProbe.Proofs.Node.Replies
import HostProbe.Proofs.Package.Course
import HostProbe.Proofs.Tool.Chores
import HostProbe.Proofs.Tool.Presence

/-! Packages of a node and its tools. Whatever tools are resolved, installing them is a course of the node,
so that all runs of resolutions, installations, questions to the repositories, closing and connecting
share one view of the repositories, which is refreshed once. -/

namespace HostProbe

open Node Procedure ToolRegistry

variable {σ : Type} {n : Node σ} {r : ToolRegistry σ}

lemma Node.hosts_course : n.Hosts n.Course where
  logs _ _ := .single (.aside (aside_of_leads (leads_of_eq rfl rfl) rfl))
  os := course_of_aside aside_os
  commandExists command := course_of_aside (aside_commandExists command)
  installPackages := course_installPackages
  version := course_of_aside (aside_version n)
  download url dir fileName asRoot := course_of_aside (aside_download n url dir fileName asRoot)
  extract file dest gzip asRoot := course_of_aside (aside_extract n file dest gzip asRoot)
  rootFolder file := course_of_aside (aside_rootFolder n file)
  configure opts := course_of_aside (aside_execute (by simp only [IsForeign]; decide +kernel))
  makeInstall dir asRoot := course_of_aside (aside_makeInstall n dir asRoot)
  replace opts := course_of_aside (aside_execute (by simp only [IsForeign]; decide +kernel))

/-- What the tool of the entry does to a node is a course of the node: it has packages managed in the ways
of the node, and sends no line of a package manager itself. -/
structure ToolEntry.Orderly (e : ToolEntry σ) (n : Node σ) : Prop where
  probe t : (e.probe n t).Upholds n.Course fun _ => True
  install t : (e.install n t).Upholds n.Course fun _ => True

namespace ToolRegistry

inductive Use where
  | resolve (ref : ToolRef)
  | resolveById (id : String)
  | recheck (id : String)
  | install (packages : List String)
  | query (package : String)
  | connect
  | close

def Use.call (n : Node σ) : Use → Call σ
  | .resolve ref => .resolve ref
  | .resolveById id => .resolveById id
  | .recheck id => .recheck id
  | .install packages => .perform (n.installPackages packages)
  | .query package => .perform do
    let _ ← n.inRepository package
  | .connect => .perform n.connect
  | .close => .perform n.close

section Uses

variable (hr : ∀ e ∈ r.entries, e ∈ builtInEntries ∨ e.Orderly n)

include hr

lemma staysWithin_course : r.StaysWithin n n.Course where
  logs := hosts_course.logs
  os := hosts_course.os
  probe e he t := (hr e he).elim (fun h => (upholds_builtIn hosts_course e h t).1) fun h => h.probe t
  install e he t := (hr e he).elim (fun h => (upholds_builtIn hosts_course e h t).2) fun h => h.install t

lemma course_after (s : Equipped σ) (u : Use) : n.Course s.node (r.after n s (u.call n)).node := by
  have hresolve := within_resolveById (staysWithin_course hr)
  have hperform {p : Procedure σ Unit} (hp : p.Upholds n.Course fun _ => True) :
      n.Course s.node (r.perform n p s).2.node :=
    (within_run (fun w => within_supply hresolve w) hp s).node
  cases u with
  | resolve ref => exact (within_resolveAs hresolve ref s).node
  | resolveById id => exact (hresolve id s).node
  | recheck id => exact (within_recheck (staysWithin_course hr) id s).node
  | install packages => exact hperform (upholds_ofNode (course_installPackages packages))
  | query package =>
    exact hperform (upholds_ofNode_bind (course_inRepository package) fun _ => upholds_pure trivial)
  | connect => exact hperform (upholds_ofNode (course_of_aside aside_connect))
  | close => exact hperform (upholds_ofNode (course_of_aside aside_close))

lemma course_afterAll (s : Equipped σ) (uses : List Use) :
    n.Course s.node (r.afterAll n s (uses.map (Use.call n))).node := by
  induction uses generalizing s with
  | nil => exact refl s.node
  | cons u uses ih => exact IsTrans.trans _ _ _ (course_after hr s u) (ih _)

end Uses

/-- On a node whose packages apt or zypper manages, the view of the repositories is refreshed once: after
any uses no refresh succeeded after another, and nothing was sent that relies on one that did not succeed
before. As long as none did, an installation and a question to the repositories try it, and fail without
doing their own if that fails. An installation of nothing does nothing. -/
theorem repositories_refreshed_once (r : ToolRegistry σ) (n : Node σ)
    (hr : ∀ e ∈ r.entries, e ∈ builtInEntries ∨ e.Orderly n) (kind : PackageKind)
    (hkind : kind = .apt ∨ kind = .zypper) (s : Equipped σ) (hs : s.node.packages = none)
    (uses : List Use) :
    n.Faithful kind s.node (r.afterAll n s (uses.map (Use.call n))).node ∧
    (∀ t, t.packages ≠ some (kind, ⟨true⟩) →
      (∀ packages, packages ≠ [] → n.AwaitsRefresh kind (n.installPackages packages) t) ∧
      ∀ package, n.AwaitsRefresh kind (n.inRepository package) t) ∧
    n.installWith kind [] = pure () ∧
    ∀ t view, t.packages = some (kind, view) → n.installPackages [] t = (.ok (), t) := by
  have hrefresh : kind.refreshCommand? ≠ none := by
    rcases hkind with rfl | rfl <;> exact nofun
  refine ⟨faithful_of_course hrefresh hs (course_afterAll hr s uses), fun t ht => ⟨?_, ?_⟩, rfl, ?_⟩
  · exact fun packages hne => awaitsRefresh_managed hrefresh ht (freshensFirst_installWith hne)
  · exact fun package => awaitsRefresh_managed hrefresh ht (freshensFirst_inRepositoryOf package)
  · intro t view ht
    have hknown : n.packageManager t = (.ok kind, t) := by
      rw [packageManager, bind_of_ok (get_apply t), ht]
      rfl
    rw [installPackages, bind_of_ok hknown]
    rfl

def flaky : Node Nat where
  name := "host"
  transport :=
    { describe := "local"
      isRemote := false
      connect := fun m => (.ok (), m)
      run := fun q m =>
        if q.command = "sudo sh -c 'apt-get update'" then
          (.ok ⟨if m = 0 then 100 else 0, "", ""⟩, m + 1)
        else (.ok ⟨0, "", ""⟩, m)
      close := fun m => (.ok (), m) }

theorem repositories_refreshed_once_after_failure :
    let s : Equipped Nat :=
      { node := { machine := 0, os := some (.named .debian "Ubuntu" (.release 22 4 0)) } }
    let uses : List Use := [.install ["make"], .close, .query "gcc", .resolve .git, .install ["gcc"]]
    let t := ((builtIn {}).afterAll flaky s (uses.map (Use.call flaky))).node
    flaky.Faithful .apt s.node t ∧ t.packages = some (.apt, ⟨true⟩) ∧ t.machine = 2 ∧
      flaky.AwaitsRefresh .apt (flaky.installPackages ["make"]) s.node := by
  intro s uses t
  obtain ⟨hfaithful, hawaits, -, -⟩ := repositories_refreshed_once (builtIn {}) flaky
    (fun _ he => .inl he) .apt (.inl rfl) s rfl uses
  have hrun : t.packages = some (.apt, ⟨true⟩) ∧ t.machine = 2 := by decide +kernel
  exact ⟨hfaithful, hrun.1, hrun.2, (hawaits s.node nofun).1 ["make"] (by simp)⟩

end ToolRegistry

end HostProbe
