import HostProbe.Proofs.Kdump.Configure
import HostProbe.Proofs.Tool.Chores
import HostProbe.Proofs.Tool.Installation

/-! The version of the loader of the crash kernel. It is read once, right after its package was
installed; what is built from source afterwards is not asked again. -/

namespace HostProbe.Kexec

open HostProbe.Text NodeM Procedure

variable {σ α β : Type} {n : Node σ} {s t : NodeState σ} {v : Version}

abbrev quietRoot : ExecOptions := ExecOptions.quiet { asRoot := true }

def readAsk : Ask := ⟨true, false, .ok "kexec -v"⟩

def copyAsk : Ask := ⟨true, true, .ok "yes | cp -f /usr/local/sbin/kexec /sbin/"⟩

def Knows (n : Node σ) (s : NodeState σ) (v : Version) : Prop :=
  (version n s).1 = .ok v ∧ (version n s).2.contacts = s.contacts

def Reading (v : Version) (x : Exchange) : Prop :=
  x.request.command = "sudo kexec -v" ∧ ∃ output, x.answer = .ok output ∧
    versionOf (trimmed output.stdout) = .ok v

def Stored (n : Node σ) (s : NodeState σ) (v : Version) : Prop :=
  ∃ env result, Node.mergedEnv quietRoot s = .ok env ∧
    s.results.lookup (n.resultKey "kexec -v" quietRoot env s) = some result ∧
    result.exitCode = 0 ∧ versionOf result.stdout = .ok v

lemma Stored.congr (h : Stored n s v) (hdir : t.workingDir = s.workingDir) (henv : t.env = s.env)
    (hresults : ∀ key result, s.results.lookup key = some result → t.results.lookup key = some result) :
    Stored n t v := by
  obtain ⟨env, result, hmerged, hstored, hcode, hv⟩ := h
  have hkey : n.resultKey "kexec -v" quietRoot env t = n.resultKey "kexec -v" quietRoot env s := by
    rw [Node.resultKey_inj]
    exact ⟨rfl, rfl, hdir, rfl, rfl⟩
  refine ⟨env, result, ?_, ?_, hcode, hv⟩
  · rw [← hmerged, Node.mergedEnv, Node.mergedEnv, henv]
  · rw [hkey]
    exact hresults _ _ hstored

lemma Stored.carried (h : Stored n s v) (hcarries : n.Carries s t) : Stored n t v :=
  h.congr hcarries.workingDir hcarries.env hcarries.recalls

lemma Stored.of_reaches (h : Stored n t v) (hreaches : n.Reaches s t) : Stored n s v := by
  have hroutine := hreaches.routine
  refine h.congr hroutine.workingDir.symm hroutine.env.symm fun key result hr => ?_
  rwa [hroutine.results] at hr

def tell (n : Node σ) (result : ExecutionResult) : NodeM σ Version := do
  let _ ← result.requireSuccess (trimmed result.stderr)
  let v ← versionOf result.stdout
  log .info "kexec version" [n.field, ("version", v.text)]
  return v

lemma version_eq : version n = n.executeCached "kexec -v" quietRoot >>= tell n := rfl

lemma tell_of_success {result : ExecutionResult} (hcode : result.exitCode = 0)
    (hv : versionOf result.stdout = .ok v) : ∃ logs, tell n result s = (.ok v, { s with logs }) := by
  have hsuccess : result.requireSuccess (trimmed result.stderr) = .ok result := if_pos hcode
  rw [tell, hsuccess, hv]
  exact ⟨_, rfl⟩

lemma success_of_tell {result : ExecutionResult} (h : tell n result s = (.ok v, t)) :
    result.exitCode = 0 ∧ versionOf result.stdout = .ok v ∧ ∃ logs, t = { s with logs } := by
  obtain ⟨_, s₁, hsuccess, h⟩ := bind_eq_ok h
  obtain ⟨told, s₂, hversion, h⟩ := bind_eq_ok h
  obtain ⟨_, s₃, hlog, h⟩ := bind_eq_ok h
  obtain ⟨hrequired, rfl⟩ := Prod.mk.inj hsuccess
  obtain ⟨hread, rfl⟩ := Prod.mk.inj hversion
  cases h
  cases hlog
  refine ⟨?_, hread, _, rfl⟩
  by_contra hcode
  cases (if_neg hcode).symm.trans hrequired

lemma Stored.knows (h : Stored n s v) : Knows n s v := by
  obtain ⟨env, result, hmerged, hstored, hcode, hv⟩ := h
  have hserved : n.executeCached "kexec -v" quietRoot s = (.ok result, s) := by
    have hcases := n.executeCached_cases "kexec -v" quietRoot s
    generalize n.executeCached "kexec -v" quietRoot s = out at hcases ⊢
    cases hcases with
    | refused hmerged' => cases hmerged'.symm.trans hmerged
    | served hmerged' hrecalled =>
      cases hmerged'.symm.trans hmerged
      cases hrecalled.symm.trans hstored
      rfl
    | failed hmerged' hnew =>
      cases hmerged'.symm.trans hmerged
      cases hnew.symm.trans hstored
    | ran hmerged' hnew =>
      cases hmerged'.symm.trans hmerged
      cases hnew.symm.trans hstored
  obtain ⟨logs, htell⟩ := tell_of_success (n := n) (s := s) hcode hv
  rw [Knows, version_eq, bind_of_ok hserved, htell]
  exact ⟨rfl, rfl⟩

lemma version_cases (h : version n s = (.ok v, t)) :
    Stored n t v ∧ n.Carries s t ∧ (Stored n s v ∨ ∃ xs x, n.Leads s t (xs ++ [x]) ∧ Reading v x) := by
  rw [version_eq] at h
  obtain ⟨result, u, hcached, htell⟩ := bind_eq_ok h
  obtain ⟨hcode, hv, logs, rfl⟩ := success_of_tell htell
  have hlogs : n.Carries u { u with logs } := Node.respects_carries.logs u logs
  have hcarries : n.Carries s u := (Node.within_executeCached rfl).of_eq hcached
  have hcases := n.executeCached_cases "kexec -v" quietRoot s
  rw [hcached] at hcases
  cases hcases with
  | served hmerged hrecalled =>
    have hstored : Stored n s v := ⟨_, result, hmerged, hrecalled, hcode, hv⟩
    exact ⟨hstored.carried hlogs, hlogs, .inl hstored⟩
  | @ran env _ w hmerged hnew hrun =>
    have hask : quietRoot.ask "kexec -v" ∈ [readAsk] := List.mem_singleton_self _
    obtain ⟨hkept, xs, hleads, -, hlast⟩ := Node.emits_execute (n := n) hask s
    rw [hrun] at hkept hleads
    obtain ⟨earlier, x, rfl, hx⟩ := hlast result (congrArg Prod.fst hrun)
    obtain ⟨output, hanswer, hresult⟩ := hx.answer
    -- The key is that of the state before, which agrees in all that decides it.
    have hhere : Stored n { s with
        results := (Node.store (n.resultKey "kexec -v" quietRoot env s) result w).2.results } v :=
      ⟨env, result, hmerged, Node.lookup_store_self, hcode, hv⟩
    refine ⟨hhere.congr hkept.workingDir hkept.env fun _ _ h => h,
      IsTrans.trans _ _ _ hcarries hlogs, .inr ⟨earlier, x, hleads, ?_, output, hanswer, ?_⟩⟩
    · exact (Except.ok.inj hx.line).symm
    · rw [hresult] at hv
      exact hv

section Source

lemma within_version_carries : Within n.Carries (version n) := by
  rw [version_eq]
  refine (Node.within_executeCached rfl).bind fun result => ?_
  exact (within_liftM _).bind fun _ => (within_liftM _).bind fun _ =>
    (Node.respects_carries.within_log _ _ _).bind fun _ => within_pure _

lemma emits_copy : Emits n id [copyAsk] (fun _ xs => n.Confirmed copyAsk xs)
    (n.execute "yes | cp -f /usr/local/sbin/kexec /sbin/"
      (ExecOptions.successOr { asRoot := true, shell := true } "failed to replace /sbin/kexec")) :=
  Kdump.emits_rootShell (List.mem_singleton_self _)

variable {resolve : ToolRequest → ToolM σ Tool} {r : ToolRegistry σ}

open ToolRegistry

lemma endsBy_ofNode_bind {P : Equipped σ → Equipped σ → Prop} {a : NodeM σ β} {f : β → Procedure σ α}
    (ha : Within n.Carries a) (hf : ∀ x, EndsBy (Upkeep r n.Carries) P ((f x).run resolve)) :
    EndsBy (Upkeep r n.Carries) P (((liftM a : Procedure σ β) >>= f).run resolve) := by
  rw [run_bind]
  exact (within_onNode ha).bind_endsBy hf

variable (hresolve : ∀ w, Within (Upkeep r n.Carries) (resolve w))

include hresolve

lemma endsBy_tool_bind {P : Equipped σ → Equipped σ → Prop} (ref : ToolRef) {f : Tool → Procedure σ α}
    (hf : ∀ tool, EndsBy (Upkeep r n.Carries) P ((f tool).run resolve)) :
    EndsBy (Upkeep r n.Carries) P ((Procedure.tool ref >>= f).run resolve) := by
  rw [run_bind]
  exact (hresolve (.ofKind ref)).bind_endsBy hf

lemma endsBy_installFromSource : EndsBy (Upkeep r n.Carries)
    (fun u v => ∃ xs, n.Leads u.node v.node xs ∧ n.Confirmed copyAsk xs)
    ((installFromSource n).run resolve) := by
  have h := Node.respects_carries (n := n)
  refine endsBy_ofNode_bind (h.within_log _ _ _) fun _ => endsBy_tool_bind hresolve _ fun _ => ?_
  refine endsBy_ofNode_bind (h.download _ _ _ _) fun _ => endsBy_tool_bind hresolve _ fun _ => ?_
  refine endsBy_ofNode_bind (h.extract _ _ _ _) fun _ => endsBy_ofNode_bind (h.rootFolder _) fun _ => ?_
  refine endsBy_tool_bind hresolve _ fun _ => endsBy_ofNode_bind (h.execute _ _) fun _ => ?_
  refine endsBy_tool_bind hresolve _ fun _ => endsBy_ofNode_bind (h.makeInstall _ _) fun _ => ?_
  refine endsBy_of_last fun u _ v hrun => ?_
  rw [run_bind, run_ofNode] at hrun
  obtain ⟨result, w, hcopied, hrest⟩ := bind_eq_ok hrun
  obtain ⟨-, xs, hleads, -, hconfirmed⟩ := emits_copy.onNode u
  rw [hcopied] at hleads hconfirmed
  cases hrest
  exact ⟨xs, hleads, hconfirmed result rfl⟩

lemma built_from_source {u v : Equipped σ} {x : Unit}
    (h : (installFromSource n).run resolve u = (.ok x, v)) :
    n.Carries u.node v.node ∧ ∃ xs, n.Leads u.node v.node xs ∧ n.Confirmed copyAsk xs := by
  have hhosts : n.Hosts n.Carries := Node.respects_carries.hosts within_version_carries
  have hwhole := within_run hresolve (upholds_installFromSource hhosts) u
  obtain ⟨w, hbuild, ys, hcopy, hconfirmed⟩ := endsBy_installFromSource hresolve u x v h
  obtain ⟨xs, hleads⟩ := hbuild.node.leads
  rw [h] at hwhole
  exact ⟨hwhole.node, xs ++ ys, hleads.trans hcopy, hconfirmed.append_left xs⟩

lemma installed_of_debian {tool : Tool} (hdebian : tool.detail = .kexec .debian) {u w : Equipped σ}
    {x : Unit} (h : (install n tool).run resolve u = (.ok x, w)) :
    ∃ v mid p ys, n.Reaches u.node mid ∧ version n mid = (.ok v, p) ∧ n.Carries p w.node ∧
      n.Leads p w.node ys ∧ (v.before minimum = true → n.Confirmed copyAsk ys) ∧
      (v.before minimum = false → ys = []) := by
  rw [install, hdebian] at h
  simp only [run_bind, run_ofNode] at h
  obtain ⟨_, mid, hpackages, h⟩ := bind_eq_ok h
  obtain ⟨v, p, hversion, h⟩ := bind_eq_ok h
  have hreaches : n.Reaches u.node mid.node :=
    ((within_onNode (r := r) (Node.respects_reaches.installPackages _)).of_eq hpackages).node
  have hread : version n mid.node = (.ok v, p.node) :=
    congrArg (fun out : Except Fault Version × Equipped σ => (out.1, out.2.node)) hversion
  cases hold : v.before minimum with
  | true =>
    rw [hold] at h
    obtain ⟨hcarries, ys, hleads, hcopied⟩ := built_from_source hresolve h
    exact ⟨v, mid.node, p.node, ys, hreaches, hread, hcarries, hleads, fun _ => hcopied, by simp [hold]⟩
  | false =>
    rw [hold] at h
    obtain ⟨-, rfl⟩ := Prod.mk.inj h
    exact ⟨v, mid.node, p.node, [], hreaches, hread, refl _, Node.leads_of_eq rfl rfl, by simp [hold],
      fun _ => rfl⟩

end Source

def Steady (n : Node σ) : Prop :=
  n.transport.Steady "sudo kexec -v" fun line =>
    mentions line "install" = true ∨ mentions line "cp -f" = true

lemma command_of_makes {r : ToolRegistry σ} {tool : Tool} (h : r.Makes (entry (σ := σ)) tool) :
    tool.command = "kexec" := by
  obtain ⟨os, seed, serial, hseed, rfl⟩ := h
  cases hseed
  rfl

lemma lineOf_which : n.lineOf (.which "kexec") =
    .ok (if n.alwaysSudo = true then "sudo sh -c 'command -v kexec'" else "command -v kexec") := by
  have hlook : (Shell.quote "kexec").map ("command -v " ++ ·) = .ok "command -v kexec" := by
    decide +kernel
  have hquote : Shell.quote "command -v kexec" = .ok "'command -v kexec'" := by decide +kernel
  rw [Node.lineOf, Ask.which, hlook]
  cases n.alwaysSudo with
  | true =>
    simp only [Bool.or_true, if_true, Except.bind, hquote, Except.map]
    rfl
  | false => rfl

lemma distinct : n.Distinct "kexec" := by
  intro line hline
  rw [lineOf_which] at hline
  cases hline
  rintro (hsudo | ⟨a, ha, hrelease⟩)
  · cases hn : n.alwaysSudo <;> simp [hn] at hsudo
  · obtain rfl := List.mem_singleton.mp ha
    rw [Node.lineOf, Ask.release] at hrelease
    cases hn : n.alwaysSudo <;> simp [hn, Except.bind] at hrelease

lemma steady_of_permits {line : String} (h : n.Permits [.which "kexec"] line) :
    ¬ (mentions line "install" = true ∨ mentions line "cp -f" = true) := by
  rcases h with rfl | ⟨a, ha, hline⟩
  · decide +kernel
  · obtain rfl := List.mem_singleton.mp ha
    rw [lineOf_which] at hline
    cases hline
    cases n.alwaysSudo with
    | true => decide +kernel
    | false => decide +kernel

lemma course_of_resolve {c : Config} {s t : Equipped σ} {tool : Tool}
    (hresolve : (ToolRegistry.builtIn c).resolve n .kexec s = (.ok tool, t))
    (hdebian : tool.detail = .kexec .debian)
    (hmissing : n.ToldMissing "kexec" s.node t.node) :
    ∃ v mid p later, n.Reaches s.node mid ∧ version n mid = (.ok v, p) ∧ n.Carries p t.node ∧
      n.Leads p t.node later ∧ (v.before minimum = true → n.Confirmed copyAsk later) ∧
      (v.before minimum = false → ∀ y ∈ later, n.Permits [.which "kexec"] y.request.command) := by
  have hr := ToolRegistry.respects_builtIn_of Node.respects_carries within_version_carries (n := n) c
  obtain ⟨resolve, u, w, hwithin, hinstalls⟩ :=
    ToolRegistry.exists_installs_of_resolve rfl (fun _ => command_of_makes) distinct hr rfl rfl hresolve
      hmissing
  obtain ⟨v, mid, p, ys, hpackages, hversion, hbuilt, hsource, hold, hrecent⟩ :=
    installed_of_debian hwithin hdebian hinstalls.install
  -- What is left of the resolution after the installation is one more look for the loader.
  obtain ⟨last, logs, hfound, ht⟩ := hinstalls.after
  rw [command_of_makes hinstalls.made] at hfound
  have hlook : Emits n id [.which "kexec"] (fun _ _ => True) (n.commandExists "kexec") :=
    Node.emits_commandExists (List.mem_singleton_self _)
  obtain ⟨-, zs, hlooked, hpermits, -⟩ := hlook w.node
  have hkept : n.Carries w.node last := (Node.respects_carries.commandExists "kexec").of_eq hfound
  rw [hfound] at hlooked
  rw [ht]
  refine ⟨v, mid, p, ys ++ zs, IsTrans.trans _ _ _ hinstalls.before hpackages, hversion, ?_, ?_,
    fun h => (hold h).append_right zs, fun h => ?_⟩
  · exact IsTrans.trans _ _ _ hbuilt (IsTrans.trans _ _ _ hkept (Node.respects_carries.logs _ _))
  · exact hsource.trans hlooked
  · rw [hrecent h]
    exact hpermits

/-- After a resolution on the Debian family that found the loader missing and installed it, its version
is told without asking again. It was known before, or it was read after the package was installed; if it
is old then the source was built and copied since, and if it is not then the machine would tell it
still. -/
theorem version_is_read_before_build (n : Node σ) (c : Config) {s t : Equipped σ} {tool : Tool}
    (hresolve : (ToolRegistry.builtIn c).resolve n .kexec s = (.ok tool, t))
    (hdebian : tool.detail = .kexec .debian)
    (hmissing : n.ToldMissing "kexec" s.node t.node) :
    ∃ v, Knows n t.node v ∧
      (v.before minimum = true → n.Confirmed copyAsk (n.exchanges s.node t.node)) ∧
      (Knows n s.node v ∨ ∃ earlier x later, n.exchanges s.node t.node = earlier ++ x :: later ∧
        Reading v x ∧ (v.before minimum = true → n.Confirmed copyAsk later) ∧
        (v.before minimum = false → Steady n →
          (n.transport.run x.request t.node.machine).1 = x.answer)) := by
  obtain ⟨v, mid, p, later, hbefore, hversion, hafter, hleads, hold, hrecent⟩ :=
    course_of_resolve hresolve hdebian hmissing
  obtain ⟨hstored, hread, hfrom⟩ := version_cases hversion
  obtain ⟨xs, hpast⟩ := hbefore.leads
  refine ⟨v, (hstored.carried hafter).knows, fun h => ?_, ?_⟩
  · obtain ⟨ys, hreading⟩ := hread.leads
    rw [(hpast.trans (hreading.trans hleads)).exchanges_eq]
    exact ((hold h).append_left ys).append_left xs
  · rcases hfrom with hknown | ⟨ys, x, hreading, htold⟩
    · exact .inl (hknown.of_reaches hbefore).knows
    · have hall : n.Leads s.node t.node ((xs ++ ys) ++ x :: later) := by
        simpa using hpast.trans (hreading.trans hleads)
      refine .inr ⟨xs ++ ys, x, later, hall.exchanges_eq, htold, hold, fun h hsteady => ?_⟩
      exact hall.answer_again hsteady (by decide +kernel) htold.1 fun y hy =>
        steady_of_permits (hrecent h y hy)

inductive Loader where
  | missing
  | packaged
  | built
  deriving DecidableEq

namespace Loader

def installLine : String :=
  "sudo sh -c 'DEBIAN_FRONTEND=noninteractive apt-get -y install kexec-tools'"

def copyLine : String := "sudo sh -c 'yes | cp -f /usr/local/sbin/kexec /sbin/'"

def after (line : String) (m : Loader) : Loader :=
  if line = installLine then .packaged else if line = copyLine then .built else m

def answer (version line : String) (m : Loader) : CommandOutput :=
  if line = "sudo kexec -v" then ⟨0, if m = .built then "kexec-tools 2.0.18" else version, ""⟩
  else ⟨if m = .missing ∧ line = "command -v kexec" then 1 else 0, "kexec-tools-2.0.18", ""⟩

def node (version : String) : Node Loader where
  name := "host"
  transport :=
    { describe := "local"
      isRemote := false
      connect := fun m => (.ok (), m)
      run := fun q m => (.ok (answer version q.command m), after q.command m)
      close := fun m => (.ok (), m) }

def fresh : Equipped Loader :=
  { node := { machine := .missing, os := some (.named .debian "Ubuntu" (.release 22 4 0)) } }

lemma steady_node (version : String) : Steady (node version) := by
  rintro m (_ | _ | r) q - hr
  · rfl
  · rfl
  · have hline : ¬ (mentions r.command "install" = true ∨ mentions r.command "cp -f" = true) := hr r rfl
    have hkept : after r.command m = m := by
      have hinstall : r.command ≠ installLine := fun h => hline (.inl (h ▸ by decide +kernel))
      have hcopy : r.command ≠ copyLine := fun h => hline (.inr (h ▸ by decide +kernel))
      rw [after, if_neg hinstall, if_neg hcopy]
    change ((node version).transport.run q (after r.command m)).1 = _
    rw [hkept]

def isDebian (t : Tool) : Bool := t.detail matches .kexec .debian

lemma detail_of_isDebian {t : Tool} (h : isDebian t = true) : t.detail = .kexec .debian := by
  unfold isDebian at h
  split at h
  · next hdetail => exact hdetail
  · cases h

def missed (x : Exchange) : Bool :=
  x.request.command == "command -v kexec" && match x.answer with
    | .ok output => output.exitCode != 0
    | .error _ => false

lemma toldMissing_of_missed {version : String} {s t : NodeState Loader}
    (h : ((node version).exchanges s t).any missed = true) : (node version).ToldMissing "kexec" s t := by
  obtain ⟨x, hx, hmissed⟩ := List.any_eq_true.mp h
  rw [missed, Bool.and_eq_true, beq_iff_eq] at hmissed
  obtain ⟨hline, hanswer⟩ := hmissed
  cases houtput : x.answer with
  | error f => simp [houtput] at hanswer
  | ok output =>
    refine ⟨output, ⟨x, hx, ?_, houtput⟩, by simpa [houtput] using hanswer⟩
    rw [lineOf_which, hline]
    rfl

end Loader

theorem version_is_read_before_build_recent :
    let n := Loader.node "kexec-tools 2.0.16"
    ∃ tool t, (ToolRegistry.builtIn {}).resolve n .kexec Loader.fresh = (.ok tool, t) ∧
      Knows n t.node (.release 2 0 16) ∧
      ∃ x, Reading (.release 2 0 16) x ∧ (n.transport.run x.request t.node.machine).1 = x.answer := by
  intro n
  have hrun : let out := (ToolRegistry.builtIn {}).resolve n .kexec Loader.fresh
      out.1.map Loader.isDebian = .ok true ∧
        (n.exchanges Loader.fresh.node out.2.node).any Loader.missed = true ∧
        (version n out.2.node).1 = .ok (.release 2 0 16) := by
    decide +kernel
  have hnew : (version n Loader.fresh.node).2.contacts ≠ Loader.fresh.node.contacts := by
    decide +kernel
  rcases hresolve : (ToolRegistry.builtIn {}).resolve n .kexec Loader.fresh with ⟨_ | tool, t⟩
  · rw [hresolve] at hrun
    cases hrun.1
  · rw [hresolve] at hrun
    obtain ⟨hmatches, hmissing, hversion⟩ := hrun
    have hdebian : tool.detail = .kexec .debian := Loader.detail_of_isDebian (Except.ok.inj hmatches)
    obtain ⟨v, hknows, -, hfrom⟩ := version_is_read_before_build n {} hresolve hdebian
      (Loader.toldMissing_of_missed hmissing)
    obtain rfl : v = .release 2 0 16 := Except.ok.inj (hknows.1.symm.trans hversion)
    obtain hknown | ⟨earlier, x, later, -, hread, -, hrecent⟩ := hfrom
    · exact absurd hknown.2 hnew
    · exact ⟨tool, t, rfl, hknows, x, hread, hrecent (by decide) (Loader.steady_node _)⟩

/-- The source was built and copied, and the machine tells the new version; but the one before is
known. -/
theorem built_version_is_not_told :
    let n := Loader.node "kexec-tools 2.0.14"
    let out := (ToolRegistry.builtIn {}).resolve n .kexec Loader.fresh
    Steady n ∧ out.1.isOk = true ∧
      (n.exchanges Loader.fresh.node out.2.node).any Loader.missed = true ∧
      (version n out.2.node).1 = .ok (.release 2 0 14) ∧
      (n.execute "kexec -v" quietRoot out.2.node).1.map (·.stdout) = .ok "kexec-tools 2.0.18" := by
  refine ⟨Loader.steady_node _, ?_⟩
  decide +kernel

end HostProbe.Kexec
