import HostProbe.Clock.Source
import HostProbe.Proofs.Node.Replies
import HostProbe.Proofs.Tool.Exchange
import HostProbe.Proofs.Poll
import HostProbe.Proofs.Text.Pieces

/-! The clock source in use is read before it is unbound, until another one that was listed is in use,
and once more. Only the readings of the poll are checked, and the last reading is what is told. -/

namespace HostProbe

open HostProbe.Text NodeM Procedure

variable {σ : Type} {n : Node σ}

namespace Poller

variable {asks : List Ask} {a : Ask} {resolve : ToolRequest → ToolM σ Tool} {read : Procedure σ Reading}
  {elapsed : Procedure σ Nat} {sleep : Nat → Procedure σ Unit} {p : Poller}

lemma emits_follow (hread : Emits n Equipped.node asks
      (fun reading xs => ∀ text, reading = .ok text → n.EndsReading a text xs) (read.run resolve))
    (helapsed : Emits n Equipped.node asks (fun _ xs => xs = []) (elapsed.run resolve))
    (hsleep : ∀ ms, Emits n Equipped.node asks (fun _ xs => xs = []) ((sleep ms).run resolve))
    (hp : p.state = .polling) (left : Nat) :
    Emits n Equipped.node asks
      (fun q xs => q.state = .matched → ∃ text, p.expected.accepts text = true ∧ n.EndsReading a text xs)
      ((follow read elapsed sleep left p).run resolve) := by
  induction left generalizing p with
  | zero => exact emits_pure fun h => nomatch hp.symm.trans h
  | succ left ih =>
    rw [follow, run_bind]
    refine hread.bind fun reading xs hreading => ?_
    rw [run_bind]
    refine helapsed.bind fun ms ys hys => ?_
    cases hys
    dsimp only
    split
    · next hpolling =>
      rw [run_bind]
      refine helapsed.bind fun ms' ys hys => ?_
      rw [run_bind]
      refine (hsleep _).bind fun _ zs hzs => ?_
      cases hys
      cases hzs
      refine (ih hpolling).mono (List.Subset.refl _) fun q ws hws hmatched => ?_
      obtain ⟨text, haccepts, hends⟩ := hws hmatched
      rw [observe_expected] at haccepts
      exact ⟨text, haccepts, hends.append_left xs⟩
    · refine emits_pure fun hmatched => ?_
      have haccepts := accepts_of_matched hp hmatched
      cases reading with
      | error message => cases haccepts
      | ok text => exact ⟨text, haccepts, by simpa using hreading text rfl⟩

end Poller

lemma Node.EndsReading.trimmed {a : Ask} {content : String} {xs : List Exchange}
    (h : n.EndsReading a content xs) : trimmed content = content := by
  obtain ⟨-, -, output, -, -, -, -, rfl⟩ := h
  rw [Text.trimmed, Text.trimmed, String.toList_ofList, trim_trim]

namespace Clock

variable (n) (settings : PollingSettings)

def sourceAsk : Ask := .read false (folder ++ "current_clocksource")

def listAsk : Ask := .read false (folder ++ "available_clocksource")

def unbindAsk (source : String) : Ask where
  asRoot := true
  shell := true
  command := (Shell.quote source).map fun arg => "echo " ++ arg ++ " > " ++ folder ++ "unbind_clocksource"

def survey : Procedure σ (String × List String) := do
  let source ← current n
  return (source, (← available n).filter (· ≠ source))

def leave (source : String) (others : List String) : Procedure σ Unit := do
  let arg ← Shell.quote source
  let opts : ExecOptions := { asRoot := true, shell := true }
  let _ ← n.execute ("echo " ++ arg ++ " > " ++ folder ++ "unbind_clocksource")
    (opts.successOr ("failed to unbind " ++ source))
  if !(← waitFor n settings (.anyOf others)) then
    throw (.conditionNotMet ("after unbinding " ++ source ++
      " the current clock source did not switch to " ++ (Expected.anyOf others).text))

def noteOnlySource (source : String) : NodeM σ Unit :=
  log .info "only one clock source, not unbinding" [n.field, ("clocksource", source)]

section Run

variable {n settings} (resolve : ToolRequest → ToolM σ Tool)

lemma run_unbindCurrent : (unbindCurrent n settings).run resolve =
    (survey n).run resolve >>= fun (source, others) =>
      if others = [] then (fun _ => none) <$> ToolM.onNode (noteOnlySource n source)
      else (leave n settings source others).run resolve >>= fun _ =>
        some <$> (current n).run resolve := by
  unfold unbindCurrent survey
  simp only [run_bind, bind_assoc]
  refine bind_congr fun source => bind_congr fun listed => ?_
  generalize listed.filter (· ≠ source) = others
  rw [run_pure, pure_bind]
  cases others with
  | nil => rfl
  | cons other others =>
    rw [if_neg (by simp), if_neg (by simp)]
    unfold leave
    simp only [run_bind, bind_assoc]
    refine bind_congr fun arg => bind_congr fun _ => bind_congr fun met => ?_
    cases met with
    | false => rfl
    | true =>
      rw [if_pos rfl, run_map]
      rfl

variable {resolve} {s t : Equipped σ} {source : String} {others : List String}

lemma unbindCurrent_of_nil (h : (survey n).run resolve s = (.ok (source, []), t)) :
    (unbindCurrent n settings).run resolve s = ((fun _ => none) <$> ToolM.onNode (noteOnlySource n source)) t := by
  rw [run_unbindCurrent, bind_of_ok h]
  exact congrFun (if_pos rfl) t

lemma unbindCurrent_of_ne_nil (h : (survey n).run resolve s = (.ok (source, others), t))
    (hothers : others ≠ []) : (unbindCurrent n settings).run resolve s =
      ((leave n settings source others).run resolve >>= fun _ => some <$> (current n).run resolve) t := by
  rw [run_unbindCurrent, bind_of_ok h]
  exact congrFun (if_neg hothers) t

lemma lastly_apply (leaving : ToolM σ Unit) (reading : ToolM σ String) (t : Equipped σ) :
    ((leaving >>= fun _ => some <$> reading) t).1 =
        (leaving t).1.bind (fun _ => (reading (leaving t).2).1.map some) ∧
      ((leaving t).1 = .ok () → ((leaving >>= fun _ => some <$> reading) t).2 = (reading (leaving t).2).2) := by
  rw [bind_apply]
  rcases leaving t with ⟨f | _, u⟩
  · exact ⟨rfl, nofun⟩
  · have hmap := map_apply some reading u
    exact ⟨congrArg Prod.fst hmap, fun _ => congrArg Prod.snd hmap⟩

lemma unbindCurrent_eq_some_iff (h : (survey n).run resolve s = (.ok (source, others), t)) (told : String) :
    ((unbindCurrent n settings).run resolve s).1 = .ok (some told) ↔ others ≠ [] ∧
      ((leave n settings source others).run resolve t).1 = .ok () ∧
      ((current n).run resolve ((leave n settings source others).run resolve t).2).1 = .ok told := by
  by_cases hothers : others = []
  · subst hothers
    rw [unbindCurrent_of_nil h, map_apply]
    exact iff_of_false nofun fun h => h.1 rfl
  · rw [unbindCurrent_of_ne_nil h hothers, (lastly_apply _ _ t).1, and_iff_right hothers]
    rcases ((leave n settings source others).run resolve t).1 with f | _
    · exact iff_of_false nofun fun h => nomatch h.1
    · rcases ((current n).run resolve ((leave n settings source others).run resolve t).2).1 with f | last
      · exact iff_of_false nofun fun h => nomatch h.2
      · simp [Except.bind, Except.map]

end Run

section Reading

variable {n settings} {asks : List Ask} {r : ToolRegistry σ}

def lookups : List Ask := [.release, .which "cat", sourceAsk, listAsk]

def Surveyed (n : Node σ) (source listing : String) (xs : List Exchange) : Prop :=
  ∃ ys zs, xs = ys ++ zs ∧ n.EndsReading sourceAsk source ys ∧ n.EndsReading listAsk listing zs

/-- What the exchanges show when the kernel left a source: it was told to, and then another source was
read. -/
def Left (n : Node σ) (source : String) (others : List String) (xs : List Exchange) : Prop :=
  ∃ ys zs observed, xs = ys ++ zs ∧ n.Confirmed (unbindAsk source) ys ∧ observed ∈ others ∧
    n.EndsReading sourceAsk observed zs

variable (hcat : r.find? ToolRef.cat.id = some (Tool.commandEntry .cat "cat" none))

include hcat

lemma emits_current (hasks : [.release, .which "cat", sourceAsk] ⊆ asks) :
    Emits n Equipped.node asks (n.EndsReading sourceAsk) (r.perform n (current n)) :=
  Node.emits_readThrough hcat hasks

lemma emits_survey : Emits n Equipped.node lookups
    (fun found xs => ∃ listing, Surveyed n found.1 listing xs ∧
      found.2 = (wordsOf listing).filter (· ≠ found.1)) (r.perform n (survey n)) := by
  unfold ToolRegistry.perform survey available
  rw [run_bind]
  refine (emits_current hcat (by simp [lookups])).bind fun source xs hsource => ?_
  rw [run_bind, run_bind, bind_assoc]
  refine (Node.emits_readThrough hcat (by simp [lookups, listAsk])).bind fun listing ys hlisting => ?_
  exact emits_pure ⟨listing, ⟨xs, ys, by simp, hsource, hlisting⟩, rfl⟩

lemma emits_reading (hasks : [.release, .which "cat", sourceAsk] ⊆ asks) :
    Emits n Equipped.node asks
      (fun reading xs => ∀ text, reading = .ok text → n.EndsReading sourceAsk text xs)
      (r.perform n (reading n)) := by
  unfold ToolRegistry.perform reading
  rw [run_bind]
  refine (Node.emits_wait 1).onNode.bind fun _ xs hxs => ?_
  cases hxs
  rw [run_bind, run_outcome]
  have hcurrent := (emits_current (n := n) hcat hasks).settled (P := fun _ => True) fun _ _ _ => trivial
  refine hcurrent.bind fun outcome ys hys => ?_
  cases outcome with
  | error f => exact emits_pure nofun
  | ok source =>
    refine emits_pure ?_
    rintro _ ⟨⟩
    simpa using hys.1 source rfl

omit hcat in
lemma emits_elapsedSince (start : Nat) : Emits n Equipped.node asks (fun _ xs => xs = [])
    (r.perform n (elapsedSince start)) := by
  have helapsed : Emits n id asks (fun _ xs => xs = [])
      (do return (← get).clock - start : NodeM σ Nat) :=
    emits_get.bind fun s xs hxs => emits_pure (by simp [hxs])
  exact helapsed.onNode

lemma emits_waitFor {expected : Expected} (hasks : [.release, .which "cat", sourceAsk] ⊆ asks) :
    Emits n Equipped.node asks
      (fun met xs => met = true → ∃ text, expected.accepts text = true ∧ n.EndsReading sourceAsk text xs)
      (r.perform n (waitFor n settings expected)) := by
  unfold ToolRegistry.perform waitFor
  rw [run_bind]
  refine (emits_elapsedSince 0).bind fun start xs hxs => ?_
  cases hxs
  rw [run_bind]
  refine (Poller.emits_follow (emits_reading hcat hasks) (emits_elapsedSince start)
    (fun ms => (Node.emits_wait ms).onNode) rfl _).bind fun poll xs hpoll => ?_
  split
  · next hmatched =>
    obtain ⟨text, haccepts, hends⟩ := hpoll hmatched
    exact emits_pure fun _ => ⟨text, haccepts, by simpa using hends⟩
  · rw [run_bind]
    exact (Node.emits_log _ _ _).onNode.bind fun _ _ _ => emits_pure nofun

omit hcat in
lemma mem_of_accepts {listing observed : String} {keep : String → Bool} (h : trimmed observed = observed)
    (haccepts : (Expected.anyOf ((wordsOf listing).filter keep)).accepts observed = true) :
    observed ∈ (wordsOf listing).filter keep := by
  obtain ⟨word, hword, heq⟩ := List.any_eq_true.mp haccepts
  have htrimmed : trimmed word = word := by
    obtain ⟨w, hw, rfl⟩ := List.mem_map.mp (List.mem_filter.mp hword).1
    rw [trimmed, String.toList_ofList, trim_of_mem_words hw]
  rw [beq_iff_eq, h, htrimmed] at heq
  exact heq ▸ hword

variable (settings) in
lemma emits_leave {source listing : String} {others : List String}
    (hothers : others = (wordsOf listing).filter (· ≠ source)) :
    Emits n Equipped.node (unbindAsk source :: lookups) (fun _ xs => Left n source others xs)
      (r.perform n (leave n settings source others)) := by
  have hunbind : unbindAsk source ∈ unbindAsk source :: lookups := List.mem_cons_self
  unfold ToolRegistry.perform leave
  rw [run_bind]
  refine (emits_liftM _).bind fun arg xs harg => ?_
  obtain ⟨harg, rfl⟩ := harg
  let opts : ExecOptions := { asRoot := true, shell := true }
  have hask : unbindAsk source = (opts.successOr ("failed to unbind " ++ source)).ask
      ("echo " ++ arg ++ " > " ++ folder ++ "unbind_clocksource") := by
    rw [unbindAsk, harg]
    rfl
  dsimp only
  rw [run_bind]
  refine (Node.emits_execute (hask ▸ hunbind)).onNode.bind fun result ys hresult => ?_
  obtain ⟨before, x, rfl, hx⟩ := hresult
  rw [run_bind]
  refine (emits_waitFor hcat (by simp [lookups])).bind fun met zs hpoll => ?_
  cases met with
  | false => exact emits_throw _
  | true =>
    obtain ⟨observed, haccepts, hends⟩ := hpoll rfl
    rw [hothers] at haccepts ⊢
    refine emits_pure ⟨before ++ [x], zs, observed, by simp, ?_, ?_, hends⟩
    · exact hask ▸ hx.confirmed before
    · exact mem_of_accepts hends.trimmed haccepts

end Reading

variable {n} in
lemma unmentioned_of_permits {line : String} (h : n.Permits lookups line) :
    mentions line "unbind_clocksource" = false := by
  let plain (always : Bool) : Node Unit := { Node.replying fun _ => ⟨0, "", ""⟩ with alwaysSudo := always }
  have hlookups : ∀ always, ∀ a ∈ lookups,
      ((plain always).lineOf a).toOption.all (!mentions · "unbind_clocksource") = true := by decide +kernel
  rcases h with rfl | ⟨a, ha, hline⟩
  · decide
  · have hplain : (plain n.alwaysSudo).lineOf a = .ok line := hline
    have hunmentioned := hlookups n.alwaysSudo a ha
    rw [hplain] at hunmentioned
    simpa [Except.toOption] using hunmentioned

/-- What is told is the reading after the poll, which is not checked: so a source is told that is not
another listed one exactly if the kernel left the source that was in use, and the reading after that
names no other listed one. Without other sources there is none to tell, and nothing is unbound. -/
theorem told_unlisted_iff (n : Node σ) (c : Config) (settings : PollingSettings) (s : Equipped σ) :
    let tools := ToolRegistry.builtIn c
    let found := tools.perform n (survey n) s
    let unbound := tools.perform n (unbindCurrent n settings) s
    (∀ f, found.1 = .error f → unbound = (.error f, found.2)) ∧
    ∀ source others, found.1 = .ok (source, others) →
      let left := tools.perform n (leave n settings source others) found.2
      let last := tools.perform n (current n) left.2
      let first := n.exchanges s.node found.2.node
      (∃ listing, Surveyed n source listing first ∧ others = (wordsOf listing).filter (· ≠ source)) ∧
      (others = [] → unbound.1 = .ok none ∧ n.exchanges s.node unbound.2.node = first ∧
        ∀ x ∈ first, mentions x.request.command "unbind_clocksource" = false) ∧
      (others ≠ [] → unbound.1 = left.1.bind fun _ => last.1.map some) ∧
      (∀ t, unbound.1 = .ok (some t) → ∃ leaving closing,
        n.exchanges s.node unbound.2.node = first ++ leaving ++ closing ∧
          Left n source others leaving ∧ n.EndsReading sourceAsk t closing) ∧
      ((∃ t ∉ others, unbound.1 = .ok (some t)) ↔
        others ≠ [] ∧ left.1 = .ok () ∧ ∃ t ∉ others, last.1 = .ok t) := by
  intro tools found unbound
  refine ⟨fun f hf => ?_, fun source others hfound => ?_⟩
  · have hrun : found = (.error f, found.2) := Prod.ext hf rfl
    exact (congrFun (run_unbindCurrent _) s).trans (bind_of_error hrun _)
  intro left last first
  have hrun : found = (.ok (source, others), found.2) := Prod.ext hfound rfl
  have hcat : tools.find? ToolRef.cat.id = some (Tool.commandEntry .cat "cat" none) := rfl
  obtain ⟨-, xs, hleads, hsends, hsurvey⟩ := emits_survey (n := n) hcat s
  have hfirst : first = xs := hleads.exchanges_eq
  obtain ⟨listing, hsurveyed, hothers⟩ := hsurvey (source, others) hfound
  have hnil (h : others = []) : unbound = _ := unbindCurrent_of_nil (h ▸ hrun)
  have hne (h : others ≠ []) : unbound = _ := unbindCurrent_of_ne_nil hrun h
  have hend (h : others ≠ []) : unbound.1 = left.1.bind (fun _ => last.1.map some) ∧
      (left.1 = .ok () → unbound.2 = last.2) := by
    rw [hne h]
    exact lastly_apply _ _ found.2
  have htold (t : String) : unbound.1 = .ok (some t) ↔ others ≠ [] ∧ left.1 = .ok () ∧ last.1 = .ok t :=
    unbindCurrent_eq_some_iff hrun t
  refine ⟨⟨listing, hfirst ▸ hsurveyed, hothers⟩, fun h => ?_, fun h => (hend h).1, fun t ht => ?_, ?_⟩
  · rw [hnil h]
    refine ⟨rfl, rfl, fun x hx => ?_⟩
    exact unmentioned_of_permits (hsends x (hfirst ▸ hx))
  · obtain ⟨h, hleft, hlast⟩ := (htold t).mp ht
    obtain ⟨-, ys, hleads', -, hleaves⟩ :=
      emits_leave (n := n) settings hcat hothers found.2
    have hasks : [.release, .which "cat", sourceAsk] ⊆ lookups := by simp [lookups]
    obtain ⟨-, zs, hleads'', -, hreads⟩ := emits_current (n := n) hcat hasks left.2
    refine ⟨ys, zs, ?_, hleaves () hleft, hreads t hlast⟩
    rw [(hend h).2 hleft, hfirst]
    exact ((hleads.trans hleads').trans hleads'').exchanges_eq
  · simp only [htold]
    exact ⟨fun ⟨t, ht, h, hleft, hlast⟩ => ⟨h, hleft, t, ht, hlast⟩,
      fun ⟨h, hleft, t, ht, hlast⟩ => ⟨t, ht, h, hleft, hlast⟩⟩

def wavering (listing : String) : Node (List String) where
  name := "host"
  transport :=
    { describe := "local"
      isRemote := false
      connect := fun m => (.ok (), m)
      run := fun q m =>
        if q.command = "cat " ++ folder ++ "current_clocksource" then (.ok ⟨0, m.headD "", ""⟩, m.tail)
        else if q.command = "cat " ++ folder ++ "available_clocksource" then (.ok ⟨0, listing, ""⟩, m)
        else (.ok ⟨0, "", ""⟩, m)
      close := fun m => (.ok (), m) }

/-- The kernel goes over to another source and back, and the one that was unbound is told as the new
source. -/
theorem unbound_source_is_told :
    let os : Os := .named .debian "Ubuntu" (.release 22 4 0)
    let n := wavering "tsc hpet"
    let s : Equipped (List String) := { node := { machine := ["tsc", "hpet", "tsc"], os := some os } }
    let tools := ToolRegistry.builtIn {}
    (tools.perform n (survey n) s).1 = .ok ("tsc", ["hpet"]) ∧
      (tools.perform n (unbindCurrent n {}) s).1 = .ok (some "tsc") := by
  decide +kernel

end Clock

end HostProbe
