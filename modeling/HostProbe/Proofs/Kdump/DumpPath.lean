import HostProbe.Proofs.Kdump.Setup
import HostProbe.Proofs.Node.Call
import HostProbe.Proofs.Node.Replies

/-! Where crash dumps are looked for. A session takes the directory from the configuration, and setting
up may move the dumps; where they were moved to is known only as long as the tool is. -/

namespace HostProbe

open Procedure

variable {σ : Type} {n : Node σ}

namespace Kdump

def MovedAsTold (k : Kdump) (s : NodeState σ) : Prop :=
  ∀ path, s.dumpPaths.lookup k.serial = some path →
    k.variant.hooks.relocation = .largeMemory ∧ path = k.settings.relocatedDumpPath

lemma MovedAsTold.dumpPathIn {k : Kdump} {s : NodeState σ} (h : k.MovedAsTold s) :
    k.dumpPathIn s = k.settings.dumpPath ∨ (k.variant.hooks.relocation = .largeMemory ∧
      k.dumpPathIn s = k.settings.relocatedDumpPath) := by
  unfold Kdump.dumpPathIn
  cases hpath : s.dumpPaths.lookup k.serial with
  | none => exact .inl rfl
  | some path => exact .inr (h path hpath)

lemma within_moveDumps {k : Kdump} (h : k.variant.hooks.relocation = .largeMemory) :
    Within (Saves k.MovedAsTold) (k.moveDumps (σ := σ) k.settings.relocatedDumpPath) := by
  intro s _ path hpath
  refine ⟨h, ?_⟩
  exact (Option.some.inj (List.lookup_cons_self.symm.trans hpath)).symm

def checkDumpIn (k : Kdump) (n : Node σ) (path : String) : NodeM σ Unit := do
  let size := toString k.settings.minDumpSizeMb
  let arg ← Shell.quote path
  let opts : ExecOptions := { asRoot := true, shell := true }
  let result ← n.execute ("find " ++ arg ++ " -type f -size +" ++ size ++ "M") opts
  if result.stdout.isEmpty then
    throw (.conditionNotMet ("no file larger than " ++ size ++ "M in " ++ path ++
      ", the dump file wasn't generated"))

lemma checkDump_apply (k : Kdump) (n : Node σ) (s : NodeState σ) :
    k.checkDump n s = k.checkDumpIn n (k.dumpPathIn s) s := rfl

end Kdump

namespace KdumpSession

def begun (c : Config) (n : Node σ) (crashkernel : Option String) : ToolM σ KdumpSession :=
  (ToolRegistry.builtIn c).perform n (start c crashkernel)

def configured (c : Config) (n : Node σ) (crashkernel : Option String) : ToolM σ KdumpSession := do
  let s ← begun c n crashkernel
  (ToolRegistry.builtIn c).perform n (s.configure n)

def verified (c : Config) (n : Node σ) : ToolM σ KdumpSession := do
  let s ← begun c n none
  (ToolRegistry.builtIn c).perform n (s.verifyDump n)

def dumpPathAfter (out : Except Fault KdumpSession × Equipped σ) : Except Fault String :=
  out.1.map (·.kdump.dumpPathIn out.2.node)

lemma start_apply (c : Config) (crashkernel : Option String) (r : ToolRegistry σ) (n : Node σ)
    (s : Equipped σ) : r.perform n (start c crashkernel) s =
      match r.resolve n .kdump s with
      | (.error f, t) => (.error f, t)
      | (.ok tool, t) => match Kdump.ofTool? tool with
        | some k => (.ok ⟨k, crashkernel.getD c.kdump.crashkernel, .notConfigured⟩, t)
        | none => (.error (.toolTypeMismatch tool.id), t) := by
  refine (Procedure.run_request _ _ _ s).trans ?_
  change Procedure.run _ (((Procedure.done (r.resolve n .kdump s).1).andThen _).andThen _)
    (r.resolve n .kdump s).2 = _
  generalize r.resolve n .kdump s = out
  rcases out with ⟨f | tool, t⟩
  · rfl
  · change Procedure.run _ ((match Kdump.ofTool? tool with
      | some k => pure k
      | none => throw _ : Procedure σ Kdump).andThen _) t = _
    dsimp only
    cases Kdump.ofTool? tool <;> rfl

lemma settings_of_makes {c : Config} {tool : Tool} {k : Kdump}
    (h : (ToolRegistry.builtIn (σ := σ) c).Makes Kdump.entry tool) (hk : Kdump.ofTool? tool = some k) :
    k.settings = c.kdump := by
  obtain ⟨os, seed, serial, hseed, rfl⟩ := h
  change (kdumpVariants.select os).map _ = Except.ok seed at hseed
  cases hv : kdumpVariants.select os with
  | error f =>
    rw [hv] at hseed
    cases hseed
  | ok v =>
    rw [hv] at hseed
    cases hseed
    cases hk
    rfl

lemma begun_eq_ok {c : Config} {crashkernel : Option String} {machine : σ} {os : Option Os}
    {s : KdumpSession} {t : Equipped σ}
    (h : begun c n crashkernel { node := { machine, os } } = (.ok s, t)) :
    s.kdump.settings = c.kdump ∧ t.node.dumpPaths = [] := by
  have hr := ToolRegistry.respects_builtIn n.respects_kept Node.within_store c
  have hkept := ToolRegistry.within_resolve hr .kdump { node := { machine, os } }
  have hmakes (tool : Tool) (u : Equipped σ)
      (hu : (ToolRegistry.builtIn c).resolve n .kdump { node := { machine, os } } = (.ok tool, u)) :=
    ToolRegistry.makes_of_resolve hr ToolRegistry.genuine_empty hu
  rw [begun, start_apply] at h
  generalize (ToolRegistry.builtIn c).resolve n .kdump { node := { machine, os } } = out
    at h hkept hmakes
  rcases out with ⟨_ | tool, u⟩
  · cases h
  · dsimp only at h
    cases hk : Kdump.ofTool? tool with
    | none =>
      rw [hk] at h
      cases h
    | some k =>
      rw [hk] at h
      cases h
      obtain ⟨e, he, hmade⟩ := hmakes tool _ rfl
      cases he.symm.trans (rfl : (ToolRegistry.builtIn c).find? "kdump" = some Kdump.entry)
      exact ⟨settings_of_makes hmade hk, hkept.node.dumpPaths⟩

/-- What a session looks for that begins on a new node after another session set up the machine. It
searches the configured directory; the dumps go there unless the family had them moved, and then they
are found only if they were moved to the same directory. -/
theorem later_session_searches_iff (n n' : Node σ) (c : Config)
    {crashkernel crashkernel' : Option String} {machine machine' : σ} {os os' : Option Os}
    {first later : KdumpSession} {t u : Equipped σ}
    (hfirst : configured c n crashkernel { node := { machine, os } } = (.ok first, t))
    (hlater : begun c n' crashkernel' { node := { machine := machine', os := os' } } = (.ok later, u)) :
    (later.kdump.dumpPathIn u.node = first.kdump.dumpPathIn t.node ↔
      first.kdump.dumpPathIn t.node = c.kdump.dumpPath) ∧
    later.kdump.checkDump n' u.node = later.kdump.checkDumpIn n' c.kdump.dumpPath u.node ∧
    (first.kdump.dumpPathIn t.node = c.kdump.dumpPath ∨
      first.kdump.variant.hooks.relocation = .largeMemory ∧
        first.kdump.dumpPathIn t.node = c.kdump.relocatedDumpPath) := by
  have hr := ToolRegistry.respects_builtIn n.respects_kept Node.within_store c
  obtain ⟨s, t₀, hbegun, hconfigure⟩ := bind_eq_ok hfirst
  obtain ⟨hsettings, hempty⟩ := begun_eq_ok hbegun
  obtain ⟨hsettings', hempty'⟩ := begun_eq_ok hlater
  have hsearch : later.kdump.dumpPathIn u.node = c.kdump.dumpPath := by
    rw [Kdump.dumpPathIn, hempty', hsettings']
    rfl
  -- No command moves the dumps, and the one step that does moves them as told.
  have hsaves : ∀ s₁ s₂ : NodeState σ, Kept s₁ s₂ → Saves s.kdump.MovedAsTold s₁ s₂ := by
    intro s₁ s₂ h hmoved path hpath
    rw [h.dumpPaths] at hpath
    exact hmoved path hpath
  have hupholds := Kdump.upholds_configure (n.respects_kept.mono hsaves)
    (fun key result => (Node.within_store key result).mono hsaves) s Kdump.within_moveDumps
  have hkdump : first.kdump = s.kdump := ToolRegistry.value_of_run hupholds hconfigure
  have hmoved : s.kdump.MovedAsTold t.node := by
    have hupkeep := (ToolRegistry.within_perform hr hsaves hupholds).of_eq hconfigure
    refine hupkeep.node fun path hpath => ?_
    rw [hempty] at hpath
    cases hpath
  have hpaths := hmoved.dumpPathIn
  rw [hsettings] at hpaths
  rw [hsearch, hkdump]
  refine ⟨eq_comm, ?_, hpaths⟩
  rw [Kdump.checkDump_apply, hsearch]

theorem later_session_searches_iff_kept :
    let n := Node.replying fun _ => ⟨0, "512Gi", ""⟩
    let fresh : Equipped Unit :=
      { node := { machine := (), os := some (.named .redhat "CentOS" (.release 8 4 0)) } }
    ∃ first t later u, configured {} n none fresh = (.ok first, t) ∧
      begun {} n none fresh = (.ok later, u) ∧
      later.kdump.dumpPathIn u.node = first.kdump.dumpPathIn t.node := by
  intro n fresh
  have hfirst : dumpPathAfter (configured {} n none fresh) = .ok "/var/crash" := by decide +kernel
  have hlater : dumpPathAfter (begun {} n none fresh) = .ok "/var/crash" := by decide +kernel
  rcases hconfigured : configured {} n none fresh with ⟨_ | first, t⟩
  · rw [hconfigured] at hfirst
    cases hfirst
  · rcases hbegun : begun {} n none fresh with ⟨_ | later, u⟩
    · rw [hbegun] at hlater
      cases hlater
    · rw [hconfigured] at hfirst
      refine ⟨first, t, later, u, rfl, rfl, ?_⟩
      exact (later_session_searches_iff n n {} hconfigured hbegun).1.mpr (Except.ok.inj hfirst)

/-- The dumps of a machine with much memory are moved, and a later session looks for them where they
would have been. -/
theorem moved_dumps_are_not_searched :
    let n := Node.replying fun _ => ⟨0, "2.0Ti", ""⟩
    let fresh : Equipped Unit :=
      { node := { machine := (), os := some (.named .redhat "CentOS" (.release 8 4 0)) } }
    dumpPathAfter (configured {} n none fresh) = .ok "/mnt/crash" ∧
      (verified {} n fresh).2.node.contacts.getLast? = some (.run
        ⟨"sudo sh -c 'find /var/crash -type f -size +10M'", true, none, [], 600000⟩) := by
  decide +kernel

end KdumpSession

end HostProbe
