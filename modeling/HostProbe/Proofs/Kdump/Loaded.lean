import HostProbe.Proofs.Kdump.Defaults
import HostProbe.Proofs.Kdump.Session
import HostProbe.Proofs.Node.Outcome

/-! A session is verified when the kernel's command line mentions the parameter, the loaded crash kernel
was read within the attempts of the policy, and the memory map mentions it. Where the parameter is
mentioned does not matter, so a longer word of the command line can stand for it. -/

namespace HostProbe

open HostProbe.Text NodeM Procedure

variable {σ : Type} {n : Node σ}

namespace Node

lemma faults_read (path : String) (asRoot force : Bool) :
    Faults n.transport.Foreign (Cat.read n path asRoot force) :=
  (faults_liftM fun _ => Shell.foreign_quote).bind fun _ =>
    (faults_executeCached _ _).bind fun _ => faults_pure _

end Node

namespace Kdump

variable (n) (c : Config)

def cmdlineAsk : Ask := .read false "/proc/cmdline"

def loadedAsk : Ask := .read false crashLoaded

def readCmdline : Procedure σ String := do
  let _ ← Procedure.tool .cat
  Cat.read n "/proc/cmdline" false true

def requireParameter (cmdline crashkernel : String) : Except Fault Unit :=
  if mentions cmdline (parameter crashkernel) then .ok ()
  else .error (.conditionNotMet
    (parameter crashkernel ++ " boot parameter is not present in kernel cmdline"))

def loadedPolicy : RetryPolicy := c.retryPolicy "kexec-crash-loaded"

def confirmLoaded : Procedure σ Unit := do
  if !(← n.pathExists crashLoaded) then
    throw (.conditionNotMet (crashLoaded ++ " doesn't exist, kexec crash is not loaded"))
  Node.untilMet "kexec-crash-loaded" (loadedPolicy c) (requireLoaded n)
  let map ← Cat.read n memoryMap true true
  if !mentions map "Crash kernel" then
    throw (.conditionNotMet ("no 'Crash kernel' in " ++ memoryMap ++
      ", memory isn't reserved for the crash kernel"))

/-- An attempt that is repeated: the file was read and held something else, unless the machine itself
reports a condition that is not met. -/
def Unloaded (xs : List Exchange) : Prop :=
  (∃ value, value ≠ "1" ∧ n.EndsReading loadedAsk value xs) ∨ n.transport.ReportsUnmet

def ConfirmsLoaded (xs : List Exchange) : Prop :=
  ∃ before tries after map, xs = before ++ tries ++ after ∧ n.Confirmed (.test crashLoaded) before ∧
    Retried (max 1 (loadedPolicy c).maxAttempts.toNat) (Unloaded n) (n.EndsReading loadedAsk "1") tries ∧
    n.ReadsLast memoryMap map after ∧ mentions map "Crash kernel" = true

section Run

variable {n c} (resolve : ToolRequest → ToolM σ Tool)

lemma run_checkLoaded (crashkernel : String) : (checkLoaded n c crashkernel).run resolve =
    (readCmdline n).run resolve >>= fun cmdline =>
      liftM (requireParameter cmdline crashkernel) >>= fun _ => (confirmLoaded n c).run resolve := by
  unfold checkLoaded readCmdline
  rw [run_bind, run_bind, run_bind, bind_assoc]
  refine bind_congr fun _ => bind_congr fun cmdline => ?_
  unfold requireParameter
  cases mentions cmdline (parameter crashkernel) with
  | false => rfl
  | true => rfl

end Run

section Reading

variable {n}

def cmdlineAsks : List Ask := [.release, .which "cat", cmdlineAsk]

def confirmAsks : List Ask := [.test crashLoaded, loadedAsk, .cat memoryMap]

lemma emits_readCmdline : Emits n Equipped.node cmdlineAsks
    (fun cmdline xs => n.EndsReading cmdlineAsk cmdline xs)
    ((readCmdline n).run (builtInTools c n)) :=
  Node.emits_readThrough rfl (List.Subset.refl _)

lemma emits_settled_requireLoaded : Emits n id [loadedAsk]
    (fun outcome xs => (outcome = .ok () → n.EndsReading loadedAsk "1" xs) ∧
      ∀ f, outcome = .error f → f.isConditionNotMet = true → Unloaded n xs)
    (settled (requireLoaded n)) := by
  unfold requireLoaded
  rw [settled_bind]
  have hread : Emits n id [loadedAsk] (n.EndsReading loadedAsk) (Cat.read n crashLoaded false true) :=
    Node.emits_readAs (by simp [loadedAsk])
  refine (hread.settled fun s f => Node.faults_read _ _ _ s f).bind fun outcome xs hxs => ?_
  cases outcome with
  | error f =>
    refine emits_pure ⟨nofun, ?_⟩
    rintro _ ⟨⟩ hunmet
    exact .inr (hxs.2 f rfl hunmet)
  | ok value =>
    have hvalue : n.EndsReading loadedAsk value xs := hxs.1 value rfl
    dsimp only
    split
    · next hone =>
      refine emits_pure ⟨fun _ => ?_, nofun⟩
      rw [List.append_nil, ← hone]
      exact hvalue
    · next hother =>
      refine emits_pure ⟨nofun, fun _ _ _ => .inl ⟨value, hother, ?_⟩⟩
      rw [List.append_nil]
      exact hvalue

lemma emits_confirmLoaded : Emits n Equipped.node confirmAsks
    (fun _ xs => ConfirmsLoaded n c xs) ((confirmLoaded n c).run (builtInTools c n)) := by
  have hasks : .test crashLoaded ∈ confirmAsks ∧ [loadedAsk] ⊆ confirmAsks ∧
      .cat memoryMap ∈ confirmAsks := by simp [confirmAsks]
  unfold confirmLoaded
  rw [run_bind]
  refine (Node.emits_pathExists hasks.1).onNode.bind fun present before hpresent => ?_
  obtain ⟨output, htold, rfl⟩ := hpresent
  cases hcode : output.exitCode == 0 with
  | false => exact emits_throw _
  | true =>
    have htest : n.Confirmed (.test crashLoaded) before := ⟨output, htold, by simpa using hcode⟩
    simp only [Bool.not_true, Bool.false_eq_true, if_false, run_bind]
    have htries := Node.emits_untilMet (emits_settled_requireLoaded (n := n))
      (fun f xs hunmet h => h.2 f rfl hunmet) "kexec-crash-loaded" (loadedPolicy c)
    refine (htries.mono hasks.2.1 fun _ _ h => h).onNode.bind fun _ tries hretried => ?_
    refine (Node.emits_read hasks.2.2).onNode.bind fun map after hmap => ?_
    split
    · exact emits_throw _
    · next hmention =>
      refine emits_pure ⟨before, tries, after, map, by simp, htest, ?_, hmap, by simpa using hmention⟩
      obtain ⟨earlier, last, hxs, hlimit, hearlier, hlast⟩ := hretried
      exact ⟨earlier, last, hxs, hlimit, hearlier, hlast.1 rfl⟩

end Reading

section Words

lemma mentions_iff_exists_word {cmdline crashkernel : String}
    (h : ∀ c ∈ crashkernel.toList, isBlank c = false) :
    mentions cmdline (parameter crashkernel) = true ↔
      ∃ word ∈ wordsOf cmdline, mentions word (parameter crashkernel) = true := by
  have hblank : ∀ c ∈ (parameter crashkernel).toList, isBlank c = false := by
    rw [parameter, String.toList_append]
    exact List.forall_mem_append.mpr ⟨unmarked_of_any (by decide), h⟩
  have hne : (parameter crashkernel).toList ≠ [] := by
    rw [parameter, String.toList_append]
    exact List.append_ne_nil_of_left_ne_nil (by decide) _
  simp only [mentions, wordsOf, occursIn_iff, List.mem_map, exists_exists_and_eq_and,
    String.toList_ofList]
  exact infix_iff_exists_word hblank hne

lemma ne_iff_length_lt {word part : String} (h : mentions word part = true) :
    word ≠ part ↔ part.length < word.length := by
  have hwithin : part.toList <:+: word.toList := occursIn_iff.mp h
  rw [← String.length_toList, ← String.length_toList]
  refine ⟨fun hne => lt_of_le_of_ne hwithin.length_le fun heq => hne ?_, fun hlt heq => ?_⟩
  · exact (String.toList_inj.mp (hwithin.eq_of_length heq)).symm
  · rw [heq] at hlt
    exact lt_irrefl _ hlt

def OnlyWithin (cmdline crashkernel : String) : Prop :=
  (∃ word ∈ wordsOf cmdline, mentions word (parameter crashkernel) = true) ∧
    ∀ word ∈ wordsOf cmdline, mentions word (parameter crashkernel) = true →
      (parameter crashkernel).length < word.length

instance (cmdline crashkernel : String) : Decidable (OnlyWithin cmdline crashkernel) :=
  inferInstanceAs (Decidable ((∃ word ∈ wordsOf cmdline, mentions word (parameter crashkernel) = true) ∧
    ∀ word ∈ wordsOf cmdline, mentions word (parameter crashkernel) = true →
      (parameter crashkernel).length < word.length))

lemma mentions_self (s : String) : mentions s s = true := occursIn_iff.mpr (List.infix_refl _)

lemma onlyWithin_iff {cmdline crashkernel : String} (h : ∀ c ∈ crashkernel.toList, isBlank c = false) :
    OnlyWithin cmdline crashkernel ↔ mentions cmdline (parameter crashkernel) = true ∧
      parameter crashkernel ∉ wordsOf cmdline := by
  rw [OnlyWithin, ← mentions_iff_exists_word h]
  refine and_congr_right fun _ => ⟨fun hlonger hword => ?_, fun hnone word hword hmention => ?_⟩
  · exact lt_irrefl _ (hlonger _ hword (mentions_self _))
  · exact (ne_iff_length_lt hmention).mp fun heq => hnone (heq ▸ hword)

end Words

end Kdump

namespace KdumpSession

variable {k : KdumpSession} {c : Config} {s t : Equipped σ}

lemma run_verifyLoaded (resolve : ToolRequest → ToolM σ Tool) : (k.verifyLoaded n c).run resolve =
    (Kdump.readCmdline n).run resolve >>= fun cmdline =>
      liftM (Kdump.requireParameter cmdline k.crashkernel) >>= fun _ =>
        (Kdump.confirmLoaded n c).run resolve >>= fun _ => ToolM.onNode (k.advance n .loaded) := by
  unfold verifyLoaded
  rw [run_bind, Kdump.run_checkLoaded, bind_assoc]
  refine bind_congr fun cmdline => ?_
  rw [bind_assoc]
  rfl

lemma finish_apply (confirm : ToolM σ Unit) (s : Equipped σ) :
    ∃ t, (confirm >>= fun _ => ToolM.onNode (k.advance n .loaded)) s =
      ((confirm s).1.map fun _ => { k with progress := .loaded }, t) ∧
      t.node.contacts = (confirm s).2.node.contacts := by
  rw [bind_apply]
  rcases confirm s with ⟨f | _, t⟩
  · exact ⟨t, rfl, rfl⟩
  · exact ⟨_, rfl, rfl⟩

lemma verifyLoaded_of_read {resolve : ToolRequest → ToolM σ Tool} {cmdline : String}
    (h : (Kdump.readCmdline n).run resolve s = (.ok cmdline, t)) :
    (k.verifyLoaded n c).run resolve s =
      if mentions cmdline (Kdump.parameter k.crashkernel) then
        ((Kdump.confirmLoaded n c).run resolve >>= fun _ => ToolM.onNode (k.advance n .loaded)) t
      else (.error (.conditionNotMet
        (Kdump.parameter k.crashkernel ++ " boot parameter is not present in kernel cmdline")), t) := by
  rw [run_verifyLoaded, bind_of_ok h, Kdump.requireParameter]
  split
  · exact bind_of_ok (liftM_apply _ t) _
  · exact bind_of_error (liftM_apply _ t) _

end KdumpSession

namespace Kdump

/-- A session is verified exactly if the command line that was read mentions the parameter anywhere and
the crash kernel is confirmed after it. So it is verified without the parameter as a word of the command
line exactly if only longer words mention it. -/
theorem verified_without_parameter_word_iff (k : KdumpSession) (n : Node σ) (c : Config) (s : Equipped σ)
    (hblank : ∀ ch ∈ k.crashkernel.toList, isBlank ch = false) :
    let tools := ToolRegistry.builtIn c
    let read := tools.perform n (readCmdline n) s
    let verified := tools.perform n (k.verifyLoaded n c) s
    (∀ f, read.1 = .error f → verified = (.error f, read.2)) ∧
    ∀ cmdline, read.1 = .ok cmdline →
      let confirmed := tools.perform n (confirmLoaded n c) read.2
      n.EndsReading cmdlineAsk cmdline (n.exchanges s.node read.2.node) ∧
      (mentions cmdline (parameter k.crashkernel) = false → verified = (.error (.conditionNotMet
        (parameter k.crashkernel ++ " boot parameter is not present in kernel cmdline")), read.2)) ∧
      (mentions cmdline (parameter k.crashkernel) = true →
        verified.1 = confirmed.1.map (fun _ => { k with progress := .loaded }) ∧
        n.exchanges s.node verified.2.node =
          n.exchanges s.node read.2.node ++ n.exchanges read.2.node confirmed.2.node) ∧
      (confirmed.1 = .ok () → ConfirmsLoaded n c (n.exchanges read.2.node confirmed.2.node)) ∧
      (verified.1 = .ok { k with progress := .loaded } ∧ parameter k.crashkernel ∉ wordsOf cmdline ↔
        OnlyWithin cmdline k.crashkernel ∧ confirmed.1 = .ok ()) := by
  intro tools read verified
  refine ⟨fun f hf => ?_, fun cmdline hcmdline => ?_⟩
  · have hrun : read = (.error f, read.2) := Prod.ext hf rfl
    exact (congrFun (KdumpSession.run_verifyLoaded _) s).trans (bind_of_error hrun _)
  intro confirmed
  have hrun : read = (.ok cmdline, read.2) := Prod.ext hcmdline rfl
  have hverified : verified = if mentions cmdline (parameter k.crashkernel) then _ else _ :=
    KdumpSession.verifyLoaded_of_read hrun
  obtain ⟨-, xs, hleads, -, hread⟩ := emits_readCmdline (n := n) c s
  obtain ⟨-, ys, hleads', -, hconfirmed⟩ := emits_confirmLoaded (n := n) c read.2
  obtain ⟨t, hfinish, hcontacts⟩ := KdumpSession.finish_apply (k := k) (n := n)
    ((confirmLoaded n c).run (builtInTools c n)) read.2
  have hmentioned (h : mentions cmdline (parameter k.crashkernel) = true) :
      verified = (confirmed.1.map fun _ => { k with progress := .loaded }, t) := by
    rw [hverified, if_pos h]
    exact hfinish
  have hmissing (h : mentions cmdline (parameter k.crashkernel) = false) :
      verified = (.error (.conditionNotMet
        (parameter k.crashkernel ++ " boot parameter is not present in kernel cmdline")), read.2) := by
    rw [hverified, if_neg (by simp [h])]
  have hfirst : n.exchanges s.node read.2.node = xs := hleads.exchanges_eq
  have hsecond : n.exchanges read.2.node confirmed.2.node = ys := hleads'.exchanges_eq
  have hboth : n.exchanges s.node t.node = xs ++ ys := by
    rw [Node.exchanges, hcontacts]
    exact (hleads.trans hleads').exchanges_eq
  refine ⟨hfirst ▸ hread cmdline hcmdline, hmissing, fun h => ?_, fun h => ?_, ?_⟩
  · rw [hmentioned h, hfirst, hsecond]
    exact ⟨rfl, hboth⟩
  · exact hsecond ▸ hconfirmed () h
  · rw [onlyWithin_iff hblank]
    cases hmention : mentions cmdline (parameter k.crashkernel) with
    | false =>
      rw [hmissing hmention]
      simp
    | true =>
      rw [hmentioned hmention]
      rcases confirmed.1 with f | _
      · simp [Except.map]
      · simp [Except.map]

def booted (cmdline : String) : Node Unit :=
  .replying fun line => ⟨0, if line = "cat /proc/cmdline" then cmdline
    else if line = "cat /sys/kernel/kexec_crash_loaded" then "1"
    else if line = "sudo cat /proc/iomem" then "2d000000-34ffffff : Crash kernel" else "", ""⟩

theorem verified_without_parameter_word_iff_place :
    let os : Os := .named .suse "SLES" (.release 15 4 0)
    let n := booted "quiet crashkernel=512M@64M"
    ∃ v, kdumpVariants.select os = .ok v ∧
      let k : KdumpSession := ⟨⟨0, v, os, {}⟩, "512M", .pendingReboot⟩
      ((ToolRegistry.builtIn {}).perform n (k.verifyLoaded n {}) (unprepared os)).1 =
        .ok { k with progress := .loaded } ∧
      parameter "512M" ∉ wordsOf "quiet crashkernel=512M@64M" := by
  intro os n
  let v := kdumpVariants.entries.getLast (by decide)
  refine ⟨v, rfl, ?_⟩
  have hverified := (verified_without_parameter_word_iff ⟨⟨0, v, os, {}⟩, "512M", .pendingReboot⟩ n {}
    (unprepared os) (unmarked_of_any (by decide))).2 "quiet crashkernel=512M@64M" (by decide +kernel)
  exact hverified.2.2.2.2.mpr (by decide +kernel)

/-- A reservation by ranges verifies a session for a fixed size. -/
theorem range_stands_for_parameter_word :
    let os : Os := .named .debian "Ubuntu" (.release 22 4 0)
    let cmdline := "BOOT_IMAGE=/vmlinuz root=/dev/sda1 crashkernel=384M-:512M"
    let n := booted cmdline
    ∃ v, kdumpVariants.select os = .ok v ∧
      let k : KdumpSession := ⟨⟨0, v, os, {}⟩, "384M", .notConfigured⟩
      let out := (ToolRegistry.builtIn {}).perform n (k.verifyLoaded n {}) (unprepared os)
      ((ToolRegistry.builtIn {}).perform n (readCmdline n) (unprepared os)).1 = .ok cmdline ∧
        out.1.toOption.map (·.progress) = some .loaded ∧ parameter "384M" ∉ wordsOf cmdline := by
  intro os cmdline n
  refine ⟨_, rfl, ?_⟩
  decide +kernel

end Kdump

end HostProbe
