import HostProbe.Proofs.Node.Outcome
import HostProbe.Proofs.Package.Report
import HostProbe.Proofs.Tool.Arguments
import Mathlib.Data.List.Induction
import Mathlib.Data.List.ReduceOption

/-! What an installation is held to be. A package manager reports the packages that it does not know, each in
a line of its own; the installation fails for the reported ones that were asked for, whatever the exit
code, and else as the exit code says. -/

namespace HostProbe

open Text

variable {kind : PackageKind} {line name : String} {packages : List String}

namespace Package

section Messages

def IsPackageName (name : String) : Prop :=
  name ≠ "" ∧ ∀ c ∈ name.toList, c.isAlphanum ∨ c ∈ ['+', '.', '_', ':', '-']

def triggers : PackageKind → List (List String)
  | .apt => [["Unable to locate package "], ["Package '", "' has no installation candidate"]]
  | .dnf | .yum => [["No match for argument: "], ["No package "]]
  | .zypper => [["' not found in package names"], ["No provider of '"]]

def Harmless (kind : PackageKind) (text : String) : Prop :=
  ∀ parts ∈ triggers kind, ∃ part ∈ parts, ¬ part.toList <:+: text.toList

instance (kind : PackageKind) (text : String) : Decidable (Harmless kind text) :=
  decidable_of_iff (∀ parts ∈ triggers kind, ∃ part ∈ parts, occursIn part.toList text.toList = false) <| by
    simp only [Harmless, ← occursIn_iff, Bool.not_eq_true]

inductive Reports : PackageKind → String → String → Prop
  | notLocated {name : String} (h : IsPackageName name) :
      Reports .apt ("E: Unable to locate package " ++ name) name
  | noCandidate {name : String} (h : IsPackageName name) :
      Reports .apt ("E: Package '" ++ name ++ "' has no installation candidate") name
  | noMatch {kind : PackageKind} {name : String} (hkind : kind = .dnf ∨ kind = .yum)
      (h : IsPackageName name) : Reports kind ("No match for argument: " ++ name) name
  | notAvailable {kind : PackageKind} {name : String} (hkind : kind = .dnf ∨ kind = .yum)
      (h : IsPackageName name) : Reports kind ("No package " ++ name ++ " available.") name
  | notFound {name more : String} (h : IsPackageName name) (hmore : Harmless .zypper more) :
      Reports .zypper ("'" ++ name ++ "' not found in package names" ++ more) name
  | noProvider {name : String} (h : IsPackageName name) :
      Reports .zypper ("No provider of '" ++ name ++ "' found.") name

inductive Says (kind : PackageKind) (line : String) : Option String → Prop
  | unknown {name : String} (h : Reports kind line name) : Says kind line (some name)
  | nothing (h : Harmless kind line) : Says kind line none

lemma fills_of_isPackageName (h : IsPackageName name) : Fills name.toList where
  nonempty := by simpa using h.1
  chars c hc := by
    obtain hword | hsign := h.2 c hc
    · simp [isNameChar, hword]
    · simp only [List.mem_cons, List.not_mem_nil, or_false] at hsign
      rcases hsign with rfl | rfl | rfl | rfl | rfl <;> rfl

lemma named_of_harmless (h : Harmless kind line) : named (phrases kind) line.toList = [] := by
  refine named_of_lacks ?_
  cases kind <;> simp [Harmless, triggers, phrases] at h ⊢ <;> tauto

variable {p q : Phrase} {s rest : List Char} {found : List Char}

lemma match?_of_isPackageName (h : IsPackageName name)
    (hend : ∀ c ∈ (p.tail.toList ++ rest).head?, isNameChar c = false)
    (hs : s = p.lead.toList ++ (name.toList ++ (p.tail.toList ++ rest))) :
    p.match? s = some (name.toList, rest) :=
  Phrase.match?_eq_some_iff.mpr ⟨fills_of_isPackageName h, hend, hs⟩

lemma named_first (h : p.match? s = some (found, rest)) (hrest : named [p, q] rest = []) :
    named [p, q] s = [found] := by
  have hfound : ([p, q].findSome? fun p => p.match? s) = some (found, rest) := by simp [h]
  rw [named_of_match hfound, hrest]

lemma named_second (hfirst : ¬ p.lead.toList <+: s) (h : q.match? s = some (found, rest))
    (hrest : named [p, q] rest = []) : named [p, q] s = [found] := by
  have hfound : ([p, q].findSome? fun p => p.match? s) = some (found, rest) := by
    simp [h, match?_of_no_start hfirst]
  rw [named_of_match hfound, hrest]

lemma named_error (s : List Char) :
    named (phrases .apt) ('E' :: ':' :: ' ' :: s) = named (phrases .apt) s := by
  rw [named_of_no_start, named_of_no_start, named_of_no_start] <;> simp [phrases]

lemma named_of_reports (h : Reports kind line name) :
    named (phrases kind) line.toList = [name.toList] := by
  cases h with
  | notLocated h =>
    have hmatch : Phrase.match? ⟨"Unable to locate package ", ""⟩
        ("Unable to locate package " ++ name).toList = some (name.toList, []) :=
      match?_of_isPackageName h (by simp) (by simp)
    have hline : ("E: Unable to locate package " ++ name).toList =
        'E' :: ':' :: ' ' :: ("Unable to locate package " ++ name).toList := by simp
    rw [hline, named_error]
    exact named_first hmatch named_nil
  | noCandidate h =>
    have hmatch : Phrase.match? ⟨"Package '", "' has no installation candidate"⟩
        ("Package '" ++ name ++ "' has no installation candidate").toList = some (name.toList, []) :=
      match?_of_isPackageName h (by rintro c ⟨⟩; decide) (by simp)
    have hfirst : ¬ "Unable to locate package ".toList <+:
        ("Package '" ++ name ++ "' has no installation candidate").toList := by simp
    have hline : ("E: Package '" ++ name ++ "' has no installation candidate").toList =
        'E' :: ':' :: ' ' :: ("Package '" ++ name ++ "' has no installation candidate").toList := by simp
    rw [hline, named_error]
    exact named_second hfirst hmatch named_nil
  | noMatch hkind h =>
    have hmatch : Phrase.match? ⟨"No match for argument: ", ""⟩
        ("No match for argument: " ++ name).toList = some (name.toList, []) :=
      match?_of_isPackageName h (by simp) (by simp)
    rcases hkind with rfl | rfl <;> exact named_first hmatch named_nil
  | notAvailable hkind h =>
    have hmatch : Phrase.match? ⟨"No package ", ""⟩ ("No package " ++ name ++ " available.").toList =
        some (name.toList, " available.".toList) :=
      match?_of_isPackageName h (by rintro c ⟨⟩; decide) (by simp)
    have hfirst : ¬ "No match for argument: ".toList <+: ("No package " ++ name ++ " available.").toList := by
      simp
    have hrest : named (phrases .dnf) " available.".toList = [] := named_of_harmless (by decide +kernel)
    rcases hkind with rfl | rfl <;> exact named_second hfirst hmatch hrest
  | @notFound _ more h hmore =>
    have hmatch : Phrase.match? ⟨"'", "' not found in package names"⟩
        ("'" ++ name ++ "' not found in package names" ++ more).toList = some (name.toList, more.toList) :=
      match?_of_isPackageName h (by simp; decide) (by simp)
    exact named_first hmatch (named_of_harmless hmore)
  | noProvider h =>
    have hmatch : Phrase.match? ⟨"No provider of '", "'"⟩ ("No provider of '" ++ name ++ "' found.").toList =
        some (name.toList, " found.".toList) :=
      match?_of_isPackageName h (by rintro c ⟨⟩; decide) (by simp)
    have hfirst : ¬ "'".toList <+: ("No provider of '" ++ name ++ "' found.").toList := by simp
    have hrest : named (phrases .zypper) " found.".toList = [] := named_of_harmless (by decide +kernel)
    exact named_second hfirst hmatch hrest

end Messages

section Missing

variable {output : CommandOutput} {reports : List (Option String)} {x : String} {xs : List String}

lemma firsts_concat (xs : List String) (x : String) :
    firsts (xs ++ [x]) = if x ∈ firsts xs then firsts xs else firsts xs ++ [x] := by
  rw [firsts, List.foldl_append]
  rfl

lemma mem_firsts : x ∈ firsts xs ↔ x ∈ xs := by
  induction xs using List.reverseRecOn with
  | nil => simp [firsts]
  | append_singleton xs y ih =>
    rw [firsts_concat, List.mem_append, List.mem_singleton, ← ih]
    split
    · next hy => exact ⟨.inl, (·.elim id fun h => h ▸ hy)⟩
    · rw [List.mem_append, List.mem_singleton]

def outputLines (output : CommandOutput) : List String :=
  (splitAt '\n' output.stdout.toList ++ splitAt '\n' output.stderr.toList).map String.ofList

def requested (reports : List (Option String)) (packages : List String) : List String :=
  firsts (reports.reduceOption.filter (· ∈ packages))

lemma mem_requested : x ∈ requested reports packages ↔ x ∈ packages ∧ some x ∈ reports := by
  rw [requested, mem_firsts, List.mem_filter, List.reduceOption_mem_iff]
  simp [and_comm]

lemma requested_concat (reports : List (Option String)) (r : Option String) (packages : List String) :
    requested (reports ++ [r]) packages = requested reports packages ∨
      ∃ x, r = some x ∧ x ∈ packages ∧ some x ∉ reports ∧
        requested (reports ++ [r]) packages = requested reports packages ++ [x] := by
  rw [requested, List.reduceOption_append, List.filter_append]
  cases r with
  | none => exact .inl (by simp [requested])
  | some x =>
    by_cases hx : x ∈ packages
    · have hone : [some x].reduceOption.filter (· ∈ packages) = [x] := by simp [hx]
      rw [hone, firsts_concat]
      split
      · exact .inl rfl
      · next hnew => exact .inr ⟨x, rfl, hx, fun h => hnew (mem_requested.mpr ⟨hx, h⟩), rfl⟩
    · exact .inl (by simp [requested, hx])

lemma pairwise_requested (reports : List (Option String)) (packages : List String) :
    (requested reports packages).Pairwise fun x y => reports.idxOf (some x) < reports.idxOf (some y) := by
  induction reports using List.reverseRecOn with
  | nil => exact .nil
  | append_singleton reports r ih =>
    have hreported : ∀ x ∈ requested reports packages, some x ∈ reports := fun x hx =>
      (mem_requested.mp hx).2
    -- A report at the end leaves the first places of the earlier ones as they are.
    have hold : (requested reports packages).Pairwise fun x y =>
        (reports ++ [r]).idxOf (some x) < (reports ++ [r]).idxOf (some y) := by
      refine ih.imp_of_mem fun hx hy h => ?_
      rwa [List.idxOf_append_of_mem (hreported _ hx), List.idxOf_append_of_mem (hreported _ hy)]
    obtain hsame | ⟨x, rfl, -, hnew, hadded⟩ := requested_concat reports r packages
    · rwa [hsame]
    · rw [hadded, List.pairwise_append]
      refine ⟨hold, List.pairwise_singleton _ _, fun y hy z hz => ?_⟩
      rw [List.mem_singleton.mp hz, List.idxOf_append_of_mem (hreported y hy),
        List.idxOf_append_of_notMem hnew]
      exact Nat.lt_add_right _ (List.idxOf_lt_length_of_mem (hreported y hy))

lemma flatMap_named (h : List.Forall₂ (Says kind) xs reports) :
    xs.flatMap (fun line => named (phrases kind) line.toList) = reports.reduceOption.map String.toList := by
  induction h with
  | nil => rfl
  | cons hline _ ih =>
    rw [List.flatMap_cons, ih]
    cases hline with
    | unknown h => rw [named_of_reports h, List.reduceOption_cons_of_some, List.map_cons]; rfl
    | nothing h => rw [named_of_harmless h, List.reduceOption_cons_of_none]; rfl

lemma unknownPackages_eq (packages : List String) (h : List.Forall₂ (Says kind) (outputLines output) reports) :
    unknownPackages kind (trimmed output.stdout ++ "\n" ++ output.stderr) packages =
      requested reports packages := by
  have htight : ∀ p ∈ phrases kind, p.Tight := fun _ => tight_of_mem_phrases
  have hnamed : named (phrases kind) (trimmed output.stdout ++ "\n" ++ output.stderr).toList =
      reports.reduceOption.map String.toList := by
    rw [← flatMap_named h, outputLines, List.flatMap_map, List.flatMap_append]
    simp only [String.toList_ofList]
    -- The names can be searched line by line, so neither trimming nor joining the channels changes them.
    rw [← named_splitAt htight, ← named_splitAt htight, ← named_trim htight output.stdout.toList,
      ← named_newline htight]
    simp [trimmed]
  rw [unknownPackages, hnamed, List.map_map, requested]
  simp [Function.comp_def]

end Missing

end Package

section Installation

open Package Node Shell

variable {σ : Type} {n : Node σ} {s t : NodeState σ} {line : String}

/-- What an installation is held to be that was run by a line and ended with an output: exactly the
requested packages that are reported are missing, each once, in the order of their first reports; if none
is, the exit code decides. -/
def Package.Judged (packages : List String) (line : String) (output : CommandOutput)
    (reports : List (Option String)) (r : Except Fault Unit) : Prop :=
  ∃ missing : List String,
    (∀ package, package ∈ missing ↔ package ∈ packages ∧ some package ∈ reports) ∧
    missing.Pairwise (fun x y => reports.idxOf (some x) < reports.idxOf (some y)) ∧
    r = if missing ≠ [] then .error (.missingPackages missing)
      else if output.exitCode = 0 then .ok ()
      else .error (.execution line output.exitCode ("failed to install " ++ joinWith " " packages)
        (trimmed output.stderr))

def Package.judge (kind : PackageKind) (packages : List String) (result : ExecutionResult) :
    Except Fault Unit :=
  match unknownPackages kind (result.stdout ++ "\n" ++ result.stderr) packages with
  | [] => (result.requireSuccess ("failed to install " ++ joinWith " " packages)).map fun _ => ()
  | missing => .error (.missingPackages missing)

lemma judged_judge {output : CommandOutput} {reports : List (Option String)}
    (h : List.Forall₂ (Says kind) (outputLines output) reports) :
    Judged packages line output reports (judge kind packages (resultOf line output)) := by
  refine ⟨requested reports packages, fun _ => mem_requested, pairwise_requested _ _, ?_⟩
  have hunknown := unknownPackages_eq packages h
  simp only [judge, resultOf, hunknown]
  cases requested reports packages with
  | nil =>
    have hmessage : ("failed to install " ++ joinWith " " packages).isEmpty = false := by
      simp [String.isEmpty_eq_false_iff]
    simp only [ExecutionResult.requireSuccess, ExecutionResult.requireCode, hmessage]
    by_cases hcode : output.exitCode = 0 <;> simp [hcode, Except.map]
  | cons x missing => rfl

lemma noNul_of_isPackageName (h : IsPackageName name) : ¬ holdsNul name := by
  intro hnul
  have := (fills_of_isPackageName h).chars '\x00' (by simpa [holdsNul] using hnul)
  cases this

lemma install_cases (n : Node σ) (kind : PackageKind) (hnames : ∀ package ∈ packages, ¬ holdsNul package)
    (t : NodeState σ) :
    (∃ before q answer, n.Leads t (n.install kind packages t).2 (before ++ [⟨q, answer⟩]) ∧
      (∀ x ∈ before, asksSudo x.request.command) ∧ n.Reads (kind.installation packages) q.command ∧
      (n.install kind packages t).1 =
        answer.bind fun output => judge kind packages (resultOf q.command output)) ∨
    n.Hands asksSudo t (n.install kind packages t).2 ∧ ¬ n.Serves true t ∧
      ∃ f, (n.install kind packages t).1 = .error f := by
  obtain ⟨texts, hcommand, hwrites⟩ :=
    Errand.exists_line (e := kind.installation packages) kind.areFixedWords_installWords hnames
  generalize htext : String.intercalate " " texts = command at hcommand
  let opts : ExecOptions := { packageOptions with noErrorLog := true }
  let t' : NodeState σ := { t with logs := t.logs ++ [⟨.info, "installing packages",
    [n.field, ("manager", kind.text), ("packages", quotedList packages)]⟩] }
  have hrun : n.install kind packages t =
      ((n.execute command opts t').1.bind (judge kind packages), (n.execute command opts t').2) :=
    runErrand_apply hcommand t
  have hlogged : n.Leads t t' [] := leads_of_eq rfl rfl
  have hcases := execute_cases (n := n) command opts t'
  rw [hrun]
  generalize n.execute command opts t' = out at hcases ⊢
  cases hcases with
  | stopped hleads hasked _ hunready =>
    refine .inr ⟨⟨_, hlogged.trans hleads, hasked⟩, fun hserves => ?_, _, rfl⟩
    obtain ⟨line, hline⟩ := exists_lineOf n opts (htext ▸ noNul_intercalate hwrites)
    exact hunready line rfl hline (hserves.congr rfl rfl rfl rfl)
  | @answered x u asked hleads hasked _ hline =>
    refine .inl ⟨asked, x.request, x.answer, hlogged.trans hleads, hasked, ?_, ?_⟩
    · subst htext
      exact reads_of_lineOf rfl rfl kind.areFixedWords_installWords hwrites hline
    · cases x.answer <;> rfl

/-- An installation of no packages does nothing. Any other one hands its line over, after what prepares it,
and is held to be what the reports of the manager and the exit code say; or it fails before its line,
because the node cannot be used or the repositories cannot be refreshed. -/
theorem Node.installWith_judged (n : Node σ) (kind : PackageKind) (packages : List String)
    (hnames : ∀ package ∈ packages, IsPackageName package) (s : NodeState σ) :
    (packages = [] → n.installWith kind packages s = (.ok (), s)) ∧
    (packages ≠ [] →
      (∃ before q answer,
        n.Leads s (n.installWith kind packages s).2 (before ++ [⟨q, answer⟩]) ∧
        (∀ x ∈ before, n.preparesInstall kind x.request.command) ∧
        n.Reads (kind.installation packages) q.command ∧
        ∀ output reports, answer = .ok output →
          List.Forall₂ (Says kind) (outputLines output) reports →
          Judged packages q.command output reports (n.installWith kind packages s).1) ∨
      n.Hands (n.preparesInstall kind) s (n.installWith kind packages s).2 ∧
        ¬ (n.Serves true s ∧ (n.ensureFresh kind s).1 = .ok ()) ∧
        ∃ f, (n.installWith kind packages s).1 = .error f) := by
  refine ⟨?_, fun hne => ?_⟩
  · rintro rfl
    rfl
  · have hnul : ∀ package ∈ packages, ¬ holdsNul package := fun p hp => noNul_of_isPackageName (hnames p hp)
    have hfresh := hands_ensureFresh (n := n) kind s
    rw [installWith_of_ne_nil hne, bind_apply]
    rcases hensure : n.ensureFresh kind s with ⟨f | ⟨⟩, t⟩
    · rw [hensure] at hfresh
      exact .inr ⟨hfresh, fun h => (by cases h.2), f, rfl⟩
    · rw [hensure] at hfresh
      obtain ⟨before, q, answer, hleads, hasked, hreads, hresult⟩ | ⟨hhands, hunready, hfailed⟩ :=
        install_cases n kind hnul t
      · obtain ⟨first, hfirst, hprepares⟩ := hfresh
        refine .inl ⟨first ++ before, q, answer, by simpa using hfirst.trans hleads, ?_, hreads, ?_⟩
        · exact List.forall_mem_append.mpr ⟨hprepares, fun x hx => .inl (hasked x hx)⟩
        · rintro output reports rfl hsays
          rw [hresult]
          exact judged_judge hsays
      · refine .inr ⟨hfresh.trans (hhands.mono fun _ => .inl), fun h => ?_, hfailed⟩
        exact hunready (h.1.ensureFresh hensure)

theorem Node.installWith_judged_named_twice :
    let output : CommandOutput := ⟨0, "No package gcc-x available.\nNothing to do",
      "No match for argument: gcc-x\nNo package gcc available."⟩
    let n := replying fun line => if line = "command -v sudo" then ⟨0, "", ""⟩ else output
    let r := (n.installWith .yum ["make", "gcc-x"] { machine := () }).1
    r = .error (.missingPackages ["gcc-x"]) ∧ ∃ line,
      Judged ["make", "gcc-x"] line output [some "gcc-x", none, some "gcc-x", some "gcc"] r := by
  intro output n r
  refine ⟨by decide +kernel, ?_⟩
  have hmake : IsPackageName "make" ∧ IsPackageName "gcc-x" ∧ IsPackageName "gcc" := by
    simp [IsPackageName]
  have hnames : ∀ package ∈ ["make", "gcc-x"], IsPackageName package := by
    simp [hmake]
  have hserves : n.Serves true { machine := () } := ⟨rfl, fun _ => rfl, [], rfl⟩
  obtain ⟨before, q, answer, hleads, -, -, hjudged⟩ | ⟨-, hunready, -⟩ :=
    (n.installWith_judged .yum ["make", "gcc-x"] hnames { machine := () }).2 (by simp)
  · have hlast : some answer = some (.ok output) := by
      have hanswers := congrArg (fun xs => (xs.map Exchange.answer).getLast?) hleads.exchanges_eq
      simp only [List.map_append, List.map_cons, List.map_nil, List.getLast?_concat] at hanswers
      rw [← hanswers]
      decide +kernel
    refine ⟨q.command, hjudged output _ (Option.some.inj hlast) ?_⟩
    have hlines : outputLines output = ["No package gcc-x available.", "Nothing to do",
        "No match for argument: gcc-x", "No package gcc available."] := by decide +kernel
    rw [hlines]
    exact .cons (.unknown (.notAvailable (.inr rfl) hmake.2.1)) (.cons (.nothing (by decide +kernel))
      (.cons (.unknown (.noMatch (.inr rfl) hmake.2.1))
        (.cons (.unknown (.notAvailable (.inr rfl) hmake.2.2)) .nil)))
  · exact absurd ⟨hserves, rfl⟩ hunready

end Installation

end HostProbe
