import HostProbe.Device.Module
import HostProbe.Package.Install
import HostProbe.Proofs.Node.Errand
import HostProbe.Tool.Files
import HostProbe.Tool.Service

/-! The words that a machine reads from the commands of tools: the fixed words of each command and the
arguments of the caller, whatever characters these are made of. -/

namespace HostProbe

open Shell Node

variable {σ α β : Type} {n : Node σ}

section Shapes

variable {fresh : NodeState σ → Prop} {deliver : String → NodeM σ β}

lemma Node.performs_none (opts : ExecOptions) (fixed : List String) (text : String)
    (hplain : areFixedWords fixed) (htext : text = String.intercalate " " fixed)
    (h : ∀ command, Errand.line ⟨fixed, [], opts.asRoot, opts.shell⟩ = .ok command →
      n.Delivers opts command fresh (deliver command)) (post : β → α) :
    n.Performs ⟨fixed, [], opts.asRoot, opts.shell⟩ fresh (do
      let r ← deliver text
      return post r) := by
  have hrun := performs_runErrand hplain rfl rfl h fun r => .ok (post r)
  rw [runErrand, Errand.line, List.mapM_nil] at hrun
  have happend : text = String.intercalate " " (fixed ++ []) := by rw [htext, List.append_nil]
  rw [happend]
  exact hrun

lemma Node.performs_one (opts : ExecOptions) (fixed : List String) (a : String) (text : String → String)
    (hplain : areFixedWords fixed) (htext : ∀ arg, text arg = String.intercalate " " (fixed ++ [arg]))
    (h : ∀ command, Errand.line ⟨fixed, [a], opts.asRoot, opts.shell⟩ = .ok command →
      n.Delivers opts command fresh (deliver command)) (post : β → α) :
    n.Performs ⟨fixed, [a], opts.asRoot, opts.shell⟩ fresh (do
      let arg ← (liftM (quote a) : NodeM σ String)
      let r ← deliver (text arg)
      return post r) := by
  have hrun := performs_runErrand hplain rfl rfl h fun r => .ok (post r)
  rw [runErrand, Errand.line, List.mapM_cons, List.mapM_nil] at hrun
  simp only [htext]
  cases hquote : quote a <;> (rw [hquote] at hrun; exact hrun)

lemma Node.performs_two (opts : ExecOptions) (fixed : List String) (a b : String)
    (text : String → String → String) (hplain : areFixedWords fixed)
    (htext : ∀ arg arg', text arg arg' = String.intercalate " " (fixed ++ [arg, arg']))
    (h : ∀ command, Errand.line ⟨fixed, [a, b], opts.asRoot, opts.shell⟩ = .ok command →
      n.Delivers opts command fresh (deliver command)) (post : β → α) :
    n.Performs ⟨fixed, [a, b], opts.asRoot, opts.shell⟩ fresh (do
      let arg ← (liftM (quote a) : NodeM σ String)
      let arg' ← (liftM (quote b) : NodeM σ String)
      let r ← deliver (text arg arg')
      return post r) := by
  have hrun := performs_runErrand hplain rfl rfl h fun r => .ok (post r)
  rw [runErrand, Errand.line, List.mapM_cons, List.mapM_cons, List.mapM_nil] at hrun
  simp only [htext]
  cases hquote : quote a with
  | error f =>
    rw [hquote] at hrun
    exact hrun
  | ok arg =>
    rw [hquote] at hrun
    cases hquote' : quote b <;> (rw [hquote'] at hrun; exact hrun)

end Shapes

section Files

lemma performs_pathExists (path : String) :
    n.Performs ⟨["test", "-e"], [path], false, true⟩ (fun _ => True) (n.pathExists path) :=
  performs_one (.quiet { shell := true }) ["test", "-e"] path ("test -e " ++ ·) (by decide)
    (fun arg => by simp [← String.toList_inj]) (fun command _ => n.delivers_execute rfl command)
    (·.isSuccess)

def Cat.errand (path : String) (asRoot : Bool) : Errand := ⟨["cat"], [path], asRoot, false⟩

def Cat.Unread (n : Node σ) (path : String) (asRoot force : Bool) (s : NodeState σ) : Prop :=
  ∀ command, (errand path asRoot).line = .ok command →
    n.Unanswered { asRoot, forceRun := force } command s

lemma performs_read (path : String) (asRoot force : Bool) :
    n.Performs (Cat.errand path asRoot) (Cat.Unread n path asRoot force)
      (Cat.read n path asRoot force) :=
  performs_one (.successOr { asRoot, forceRun := force, noInfoLog := true } ("failed to read " ++ path))
    ["cat"] path ("cat " ++ ·) (by decide) (fun arg => by simp)
    (fun command hcommand => (n.delivers_executeCached rfl command).imp fun _ h => h command hcommand)
    fun result : ExecutionResult => result.stdout

lemma performs_edit (expression file : String) (asRoot : Bool) :
    n.Performs ⟨["sed", "-i.bak"], [expression, file], asRoot, false⟩ (fun _ => True)
      (Sed.edit n expression file asRoot) :=
  performs_two (.successOr { asRoot } ("failed to edit " ++ file)) ["sed", "-i.bak"] expression file
    (fun e f => "sed -i.bak " ++ e ++ " " ++ f) (by decide) (fun e f => by simp [← String.toList_inj])
    (fun command _ => n.delivers_execute rfl command) fun _ => ()

end Files

section Services

lemma performs_control {action : String} (haction : isFixedWord action) (name : String) :
    n.Performs ⟨["systemctl", action], [name], true, false⟩ (fun _ => True)
      (Service.control n action name) := by
  have hplain : areFixedWords ["systemctl", action] := by simpa [areFixedWords, haction] using by decide
  exact performs_one (.successOr { asRoot := true } _) ["systemctl", action] name
    ("systemctl " ++ action ++ " " ++ ·) hplain (fun arg => by simp [← String.toList_inj])
    (fun command _ => n.delivers_execute rfl command) fun _ => ()

lemma performs_query {words : List String} (question name : String) 
    (hwords : areFixedWords ("systemctl" :: words))
    (htext : ∀ arg, "systemctl " ++ question ++ " " ++ arg =
      String.intercalate " " ("systemctl" :: words ++ [arg])) (post : ExecutionResult → α) :
    n.Performs ⟨"systemctl" :: words, [name], true, false⟩ (fun _ => True) (do
      let result ← Service.query n question name
      return post result) := by
  have hquery := performs_one (n := n) (.quiet { asRoot := true }) ("systemctl" :: words) name
    ("systemctl " ++ question ++ " " ++ ·) hwords htext
    (fun command _ => n.delivers_execute rfl command) post
  simp only [Service.query, bind_assoc]
  exact hquery

lemma performs_isEnabled (name : String) :
    n.Performs ⟨["systemctl", "is-enabled"], [name], true, false⟩ (fun _ => True)
      (Service.isEnabled n name) :=
  performs_query "is-enabled" name (by decide) (fun arg => by simp [← String.toList_inj]) (·.isSuccess)

lemma performs_isRunning (name : String) :
    n.Performs ⟨["systemctl", "is-active"], [name], true, false⟩ (fun _ => True)
      (Service.isRunning n name) :=
  performs_query "is-active" name (by decide) (fun arg => by simp [← String.toList_inj]) (·.isSuccess)

lemma performs_isKnown (name : String) :
    n.Performs ⟨["systemctl", "--full", "--no-pager", "status"], [name], true, false⟩ (fun _ => True)
      (Service.isKnown n name) :=
  performs_query "--full --no-pager status" name (by decide) (fun arg => by simp [← String.toList_inj])
    fun result =>
      result.exitCode != Service.notFound && !Text.mentions result.stderr "could not be found"

lemma performs_writeParameter (name value : String) :
    n.Performs ⟨["sysctl", "-w"], [name ++ "=" ++ value], true, false⟩ (fun _ => True)
      (Sysctl.write n name value) :=
  performs_one (.successOr { asRoot := true } _) ["sysctl", "-w"] (name ++ "=" ++ value)
    ("sysctl -w " ++ ·) (by decide) (fun arg => by simp [← String.toList_inj])
    (fun command _ => n.delivers_execute rfl command) fun _ => ()

end Services

section Modules

lemma performs_load (name : String) :
    n.Performs ⟨["modprobe"], [name], true, false⟩ (fun _ => True) (Modprobe.load n name) :=
  performs_one (.successOr { asRoot := true } _) ["modprobe"] name ("modprobe " ++ ·) (by decide)
    (fun arg => by simp) (fun command _ => n.delivers_execute rfl command) fun _ => ()

def Modprobe.removal (name : String) : Errand := ⟨["modprobe", "-r"], [name], true, false⟩

lemma performs_remove (name : String) :
    n.Performs (Modprobe.removal name) (fun _ => True) (Modprobe.remove n [name]) :=
  performs_one (.successOr { asRoot := true } _) ["modprobe", "-r"] name ("modprobe -r " ++ ·)
    (by decide) (fun arg => by simp [← String.toList_inj])
    (fun command _ => n.delivers_execute rfl command) fun _ => ()

lemma remove_cons (name : String) (rest : List String) :
    Modprobe.remove n (name :: rest) = (do Modprobe.remove n [name]; Modprobe.remove n rest) := by
  simp [Modprobe.remove]

lemma remove_append (names rest : List String) :
    Modprobe.remove n (names ++ rest) = (do Modprobe.remove n names; Modprobe.remove n rest) := by
  induction names with
  | nil => simp [Modprobe.remove]
  | cons name names ih => rw [List.cons_append, remove_cons, ih, remove_cons name names, bind_assoc]

inductive Node.InTurn (n : Node σ) (errand : String → Errand) :
    List String → NodeState σ → NodeState σ → Prop
  | done {s t : NodeState σ} (h : n.Hands asksSudo s t) : InTurn n errand [] s t
  | next {name : String} {names : List String} {s t u : NodeState σ}
      (h : n.Sends asksSudo (n.Reads (errand name)) s t) (rest : InTurn n errand names t u) :
      InTurn n errand (name :: names) s u

/-- What a run on names has handed over: the lines of the first of the names, in order; of all of them
if the run went well, and of one at least if the node serves and no name holds a NUL. -/
structure Node.Sent (n : Node σ) (errand : String → Errand) (names sent : List String) (s : NodeState σ)
    (out : Except Fault Unit × NodeState σ) : Prop where
  firsts : sent <+: names
  noNul : ∀ name ∈ sent, ¬ holdsNul name
  inTurn : n.InTurn errand sent s out.2
  all : out.1 = .ok () → sent = names
  nonempty : n.Serves true s → (∀ name ∈ names, ¬ holdsNul name) → sent = [] → names = []

/-- A node performs an errand for each name of a list, in order, as long as all goes well; it stops at a
name that holds a NUL. -/
structure Node.PerformsInTurn (n : Node σ) (errand : String → Errand) (op : List String → NodeM σ Unit) :
    Prop where
  refused : ∀ names value rest, holdsNul value →
    op (names ++ value :: rest) = (do op names; throw (refusal value))
  hands : ∀ names s, ∃ sent, n.Sent errand names sent s (op names s)

lemma remove_of_holdsNul {value : String} (h : holdsNul value) (rest : List String) :
    Modprobe.remove n (value :: rest) = throw (refusal value) := by
  rw [remove_cons, performs_remove value |>.refused value (by simp [Modprobe.removal, h])]
  rfl

lemma sent_remove_of_error {name : String} {rest : List String} {f : Fault} {s t : NodeState σ}
    (hnul : ¬ holdsNul name) (h : Modprobe.remove n [name] s = (.error f, t)) :
    ∃ sent, n.Sent Modprobe.removal (name :: rest) sent s (.error f, t) := by
  obtain hsends | ⟨hhands, hunready, -⟩ := (performs_remove (n := n) name).step (s := s) trivial
    (by simpa [Modprobe.removal] using hnul)
  · rw [h] at hsends
    exact ⟨[name], {
      firsts := by simp
      noNul := by simpa using hnul
      inTurn := .next hsends (.done (.of_leads (leads_of_eq rfl rfl)))
      all := nofun
      nonempty := nofun }⟩
  · rw [h] at hhands
    exact ⟨[], {
      firsts := List.nil_prefix
      noNul := nofun
      inTurn := .done hhands
      all := nofun
      nonempty := fun hready _ _ => absurd hready hunready }⟩

lemma sent_remove (names : List String) (s : NodeState σ) :
    ∃ sent, n.Sent Modprobe.removal names sent s (Modprobe.remove n names s) := by
  induction names generalizing s with
  | nil =>
    exact ⟨[], {
      firsts := List.prefix_refl _
      noNul := nofun
      inTurn := .done (.of_leads (leads_of_eq rfl rfl))
      all := fun _ => rfl
      nonempty := fun _ _ _ => rfl }⟩
  | cons name rest ih =>
    by_cases hnul : holdsNul name
    · rw [remove_of_holdsNul hnul]
      exact ⟨[], {
        firsts := List.nil_prefix
        noNul := nofun
        inTurn := .done (.of_leads (leads_of_eq rfl rfl))
        all := nofun
        nonempty := fun _ h _ => absurd hnul (h name List.mem_cons_self) }⟩
    · -- A failure ends the run; after a success the rest of the names is a run from the state reached.
      rw [remove_cons, bind_apply]
      rcases hfirst : Modprobe.remove n [name] s with ⟨f | ⟨⟩, t⟩
      · exact sent_remove_of_error hnul hfirst
      · have hsends := (performs_remove (n := n) name).succeeds s () trivial (by rw [hfirst])
        rw [hfirst] at hsends
        obtain ⟨sent, hsent⟩ := ih t
        exact ⟨name :: sent, {
          firsts := List.cons_prefix_cons.mpr ⟨rfl, hsent.firsts⟩
          noNul := List.forall_mem_cons.mpr ⟨hnul, hsent.noNul⟩
          inTurn := .next hsends hsent.inTurn
          all := fun h => by rw [hsent.all h]
          nonempty := nofun }⟩

lemma performsInTurn_remove : n.PerformsInTurn Modprobe.removal (Modprobe.remove n) where
  refused names value rest h := by rw [remove_append, remove_of_holdsNul h]
  hands := sent_remove

end Modules

section Packages

variable {kind : PackageKind} {packages : List String} {s t : NodeState σ}

namespace PackageKind

def installWords : PackageKind → List String
  | .apt => ["DEBIAN_FRONTEND=noninteractive", "apt-get", "-y", "install"]
  | .dnf => ["dnf", "install", "-y"]
  | .yum => ["yum", "install", "-y", "--setopt=skip_missing_names_on_install=False"]
  | .zypper => ["zypper", "--non-interactive", "install"]

def installation (kind : PackageKind) (packages : List String) : Errand :=
  ⟨kind.installWords, packages, true, true⟩

def refreshing? : PackageKind → Option Errand
  | .apt => some ⟨["apt-get", "update"], [], true, true⟩
  | .zypper =>
    some ⟨["zypper", "--non-interactive", "--gpg-auto-import-keys", "refresh"], [], true, true⟩
  | .dnf => none
  | .yum => none

lemma areFixedWords_installWords (kind : PackageKind) : areFixedWords kind.installWords := by
  cases kind <;> decide

lemma installCommand_eq (kind : PackageKind) {args : List String} (h : args ≠ []) :
    kind.installCommand (String.intercalate " " args) =
      String.intercalate " " (kind.installWords ++ args) := by
  have hwords : kind.installWords ≠ [] := by cases kind <;> decide
  rw [String.intercalate_append_of_ne_nil hwords h]
  cases kind <;> exact congrArg (· ++ String.intercalate " " args) (by decide)

end PackageKind

def Node.preparesInstall (n : Node σ) (kind : PackageKind) (line : String) : Prop :=
  asksSudo line ∨ ∃ e, kind.refreshing? = some e ∧ n.Reads e line

lemma performs_refresh {e : Errand} (h : kind.refreshing? = some e) :
    n.Performs e (fun _ => True) (n.refresh kind) := by
  have hrefresh (fixed : List String) (command : String) (hplain : areFixedWords fixed)
      (htext : command = String.intercalate " " fixed) :=
    performs_none (n := n) (packageOptions.successOr "failed to refresh package metadata") fixed command
      hplain htext (fun command _ => n.delivers_execute rfl command) fun _ => ()
  cases kind with
  | apt =>
    cases h
    exact hrefresh _ "apt-get update" (by decide) (by decide)
  | zypper =>
    cases h
    exact hrefresh _ "zypper --non-interactive --gpg-auto-import-keys refresh" (by decide) (by decide)
  | dnf => cases h
  | yum => cases h

lemma hands_refresh (kind : PackageKind) (s : NodeState σ) :
    n.Hands (n.preparesInstall kind) s (n.refresh kind s).2 := by
  cases hkind : kind.refreshing? with
  | some e =>
    obtain hhands | hsends := (performs_refresh (n := n) hkind).hands s
    · exact hhands.mono fun _ => .inl
    · exact hsends.hands (fun _ => .inl) fun line hline => .inr ⟨e, hkind, hline⟩
  | none =>
    have hnone : n.refresh kind = pure () := by cases kind <;> first | rfl | cases hkind
    rw [hnone]
    exact .of_leads (leads_of_eq rfl rfl)

lemma Node.Serves.refresh (h : n.Serves true s) (hok : n.refresh kind s = (.ok (), t)) :
    n.Serves true t := by
  unfold Node.refresh at hok
  cases hcommand : kind.refreshCommand? with
  | some command =>
    rw [hcommand] at hok
    obtain ⟨r, u, hrun, hu⟩ := bind_eq_ok hok
    cases hu
    exact serves_of_execute hrun h.env
  | none =>
    rw [hcommand] at hok
    cases hok
    exact h

lemma hands_ensureFresh (kind : PackageKind) (s : NodeState σ) :
    n.Hands (n.preparesInstall kind) s (n.ensureFresh kind s).2 := by
  obtain hdone | ⟨packages, packages', out, rfl, hrun⟩ := n.ensureFresh_apply kind s
  · rw [hdone]
    exact .of_leads (leads_of_eq rfl rfl)
  · rw [hrun]
    exact hands_refresh kind { s with packages }

lemma Node.Serves.ensureFresh (h : n.Serves true s) (hok : n.ensureFresh kind s = (.ok (), t)) :
    n.Serves true t := by
  obtain hdone | ⟨packages, packages', ⟨r, u⟩, hout, hrun⟩ := n.ensureFresh_apply kind s
  · cases hdone.symm.trans hok
    exact h
  · have hmarked : n.Serves true { s with packages } := h.congr rfl rfl rfl rfl
    cases hrun.symm.trans hok
    exact (hmarked.refresh hout).congr rfl rfl rfl rfl

/-- A node installs packages: it may refresh the view of the repositories, and then it performs the
installation. -/
structure Node.Installs (n : Node σ) (kind : PackageKind) (packages : List String) (a : NodeM σ Unit) :
    Prop where
  nothing : packages = [] → a = pure ()
  refused : ∀ value, packages.find? holdsNul = some value →
    a = (do n.ensureFresh kind; throw (refusal value))
  hands : ∀ s, n.Hands (n.preparesInstall kind) s (a s).2 ∨
    n.Sends (n.preparesInstall kind) (n.Reads (kind.installation packages)) s (a s).2
  succeeds : ∀ s, packages ≠ [] → (a s).1 = .ok () →
    n.Sends (n.preparesInstall kind) (n.Reads (kind.installation packages)) s (a s).2
  serves : ∀ s, packages ≠ [] → (∀ package ∈ packages, ¬ holdsNul package) → n.Serves true s →
    (n.ensureFresh kind s).1 = .ok () →
    n.Sends (n.preparesInstall kind) (n.Reads (kind.installation packages)) s (a s).2

def Node.install (n : Node σ) (kind : PackageKind) (packages : List String) : NodeM σ Unit :=
  runErrand (kind.installation packages) (fun command => do
    NodeM.log .info "installing packages"
      [n.field, ("manager", kind.text), ("packages", Text.quotedList packages)]
    n.execute command { packageOptions with noErrorLog := true }) fun result =>
      match Package.unknownPackages kind (result.stdout ++ "\n" ++ result.stderr) packages with
      | [] =>
        (result.requireSuccess ("failed to install " ++ Text.joinWith " " packages)).map fun _ => ()
      | missing => .error (.missingPackages missing)

lemma performs_install (kind : PackageKind) (packages : List String) :
    n.Performs (kind.installation packages) (fun _ => True) (n.install kind packages) :=
  performs_runErrand (e := kind.installation packages) kind.areFixedWords_installWords rfl rfl
    (fun command _ => (n.delivers_execute rfl command).logged _ _ _) _

lemma installWith_of_ne_nil (h : packages ≠ []) :
    n.installWith kind packages = (do n.ensureFresh kind; n.install kind packages) := by
  unfold Node.installWith
  rw [if_neg (by simpa using h)]
  refine bind_congr fun _ => ?_
  unfold Node.install runErrand Errand.line quoteAll PackageKind.installation
  cases hfind : packages.find? holdsNul with
  | some value =>
    rw [mapM_quote_of_find? hfind]
    rfl
  | none =>
    obtain ⟨args, hargs, hwrites⟩ := exists_mapM_quote (List.find?_eq_none.mp hfind)
    -- Without an argument the command would end in a space, which no list of words has.
    have hne : args ≠ [] := by
      rintro rfl
      cases hwrites
      exact h rfl
    funext s
    simp only [hargs, Except.map]
    rw [bind_of_ok (liftM_apply _ s), bind_of_ok (liftM_apply _ s)]
    rw [kind.installCommand_eq hne, bind_assoc]
    refine congrFun (bind_congr fun _ => bind_congr fun result => ?_) s
    cases Package.unknownPackages kind (result.stdout ++ "\n" ++ result.stderr) packages with
    | nil => cases result.requireSuccess ("failed to install " ++ Text.joinWith " " packages) <;> rfl
    | cons => rfl

lemma installs_installWith (kind : PackageKind) (packages : List String) :
    n.Installs kind packages (n.installWith kind packages) := by
  have hinstall := performs_install (n := n) kind packages
  have hsudo : ∀ line, asksSudo line → n.preparesInstall kind line := fun _ => .inl
  refine ⟨fun h => ?_, fun value h => ?_, fun s => ?_, fun s hne hok => ?_,
    fun s hne hnul hserves hfresh => ?_⟩
  · rw [h]
    rfl
  · have hne : packages ≠ [] := by
      rintro rfl
      cases h
    rw [installWith_of_ne_nil hne, hinstall.refused value h]
  · by_cases hne : packages = []
    · subst hne
      exact .inl (.of_leads (leads_of_eq rfl rfl))
    · have hbefore := hands_ensureFresh (n := n) kind s
      rw [installWith_of_ne_nil hne, bind_apply]
      generalize n.ensureFresh kind s = out at hbefore
      rcases out with ⟨_ | ⟨⟩, t⟩
      · exact .inl hbefore
      · exact (hinstall.hands t).imp (fun h => hbefore.trans (h.mono hsudo)) (·.after hbefore hsudo)
  · have hbefore := hands_ensureFresh (n := n) kind s
    rw [installWith_of_ne_nil hne] at hok ⊢
    obtain ⟨⟨⟩, t, hfresh, hrun⟩ := bind_eq_ok (Prod.ext hok rfl)
    rw [bind_of_ok hfresh]
    rw [hfresh] at hbefore
    exact (hinstall.succeeds t () trivial (by rw [hrun])).after hbefore hsudo
  · have hbefore := hands_ensureFresh (n := n) kind s
    rcases hrun : n.ensureFresh kind s with ⟨r, t⟩
    rw [hrun] at hbefore hfresh
    cases hfresh
    rw [installWith_of_ne_nil hne, bind_of_ok hrun]
    exact (hinstall.serves t trivial hnul (hserves.ensureFresh hrun)).after hbefore hsudo

example :
    let n := replying fun _ => ⟨0, "", ""⟩
    let s := (n.installWith .dnf ["it's", "a b", ""] { machine := () }).2
    (n.exchanges { machine := () } s).map (·.request.command) =
      ["command -v sudo", "sudo sh -c \"dnf install -y \\\"it's\\\" 'a b' ''\""] := by
  decide +kernel

end Packages

/-- What a caller passes to the commands of a node arrives as it is: each argument is one word of what
the machine reads. -/
structure Node.PassesArguments (n : Node σ) : Prop where
  pathExists : ∀ path,
    n.Performs ⟨["test", "-e"], [path], false, true⟩ (fun _ => True) (n.pathExists path)
  read : ∀ path asRoot force,
    n.Performs (Cat.errand path asRoot) (Cat.Unread n path asRoot force) (Cat.read n path asRoot force)
  substitute : ∀ pattern replacement file lines asRoot,
    n.Performs ⟨["sed", "-i.bak"], [Sed.substitution pattern replacement lines, file], asRoot, false⟩
      (fun _ => True) (Sed.substitute n pattern replacement file lines asRoot)
  append : ∀ text file asRoot,
    n.Performs ⟨["sed", "-i.bak"], ["$a " ++ text, file], asRoot, false⟩ (fun _ => True)
      (Sed.append n text file asRoot)
  enable : ∀ name,
    n.Performs ⟨["systemctl", "enable"], [name], true, false⟩ (fun _ => True) (Service.enable n name)
  restart : ∀ name,
    n.Performs ⟨["systemctl", "restart"], [name], true, false⟩ (fun _ => True) (Service.restart n name)
  stop : ∀ name,
    n.Performs ⟨["systemctl", "stop"], [name], true, false⟩ (fun _ => True) (Service.stop n name)
  isEnabled : ∀ name,
    n.Performs ⟨["systemctl", "is-enabled"], [name], true, false⟩ (fun _ => True)
      (Service.isEnabled n name)
  isRunning : ∀ name,
    n.Performs ⟨["systemctl", "is-active"], [name], true, false⟩ (fun _ => True)
      (Service.isRunning n name)
  isKnown : ∀ name,
    n.Performs ⟨["systemctl", "--full", "--no-pager", "status"], [name], true, false⟩ (fun _ => True)
      (Service.isKnown n name)
  writeParameter : ∀ name value,
    n.Performs ⟨["sysctl", "-w"], [name ++ "=" ++ value], true, false⟩ (fun _ => True)
      (Sysctl.write n name value)
  load : ∀ name,
    n.Performs ⟨["modprobe"], [name], true, false⟩ (fun _ => True) (Modprobe.load n name)
  remove : n.PerformsInTurn Modprobe.removal (Modprobe.remove n)
  install : ∀ kind packages, n.Installs kind packages (n.installWith kind packages)

theorem Node.passes_arguments_unchanged (n : Node σ) : n.PassesArguments where
  pathExists := performs_pathExists
  read := performs_read
  substitute _ _ file _ asRoot := performs_edit _ file asRoot
  append _ file asRoot := performs_edit _ file asRoot
  enable := performs_control (by decide)
  restart := performs_control (by decide)
  stop := performs_control (by decide)
  isEnabled := performs_isEnabled
  isRunning := performs_isRunning
  isKnown := performs_isKnown
  writeParameter := performs_writeParameter
  load := performs_load
  remove := performsInTurn_remove
  install := installs_installWith

end HostProbe
