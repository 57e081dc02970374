import HostProbe.Proofs.Shell.Line
import HostProbe.Ssh.Client

/-! The words that a remote shell reads before the command of a request: where to go, and what to define.
Each directory, name and value is a word or a part of one word, whatever characters it is made of. -/

namespace HostProbe

open Shell

variable {name value arg dir line text : String}

namespace Shell

variable {texts words : List String} {a b x y : List Char}

/-- A first character that is an ASCII letter or an underscore, and then only such and ASCII digits. -/
def IsPortable (name : String) : Prop :=
  ∃ c s, name.toList = c :: s ∧ (c = '_' ∨ c.isAlpha) ∧ ∀ d ∈ s, d = '_' ∨ d.isAlphanum

lemma isPortableName_iff : isPortableName name.toList ↔ IsPortable name := by
  unfold IsPortable
  cases name.toList with
  | nil => simp [isPortableName]
  | cons c s => simp [isPortableName]

lemma envName_eq_ok {name' : String} :
    envName name = .ok name' ↔ IsPortable name ∧ name' = name := by
  rw [envName, ← isPortableName_iff]
  split
  · next h => simp [h, eq_comm]
  · next h => simp [h]

lemma isBareChar_of_mem_portable (h : IsPortable name) : ∀ c ∈ name.toList, isBareChar c := by
  have hword : ∀ c : Char, c = '_' ∨ c.isAlphanum → isBareChar c := by
    rintro c (rfl | hc)
    · rfl
    · simp [isBareChar, hc]
  obtain ⟨c, s, hname, hc, hs⟩ := h
  rw [hname]
  refine List.forall_mem_cons.mpr ⟨?_, fun d hd => hword d (hs d hd)⟩
  exact hword c (hc.imp_right fun h => by simp [Char.isAlphanum, h])

lemma IsPortable.ne_nil (h : IsPortable name) : name.toList ≠ [] := by
  obtain ⟨c, s, hname, -⟩ := h
  simp [hname]

lemma Spells.append (h : Spells a x) (h' : Spells b y) : Spells (a ++ b) (x ++ y) where
  reads before rest := by
    rw [List.append_assoc, h.reads, h'.reads, List.append_assoc]
  opens := by
    obtain ⟨c, s, rfl, hc⟩ := h.opens
    exact ⟨c, s ++ b, rfl, hc⟩

def Fronts (text : String) (words : List String) : Prop :=
  ∀ rest, words? (text ++ rest) = (words? rest).map (words ++ ·)

lemma fronts_nil : Fronts "" [] := fun rest => by simp

lemma Fronts.append {text' : String} {words' : List String} (h : Fronts text words)
    (h' : Fronts text' words') : Fronts (text ++ text') (words ++ words') := by
  intro rest
  rw [String.append_assoc, h, h', Option.map_map]
  exact congrArg (Option.map · _) (funext fun ws => (List.append_assoc _ _ _).symm)

lemma Fronts.words? (h : Fronts text words) : words? text = some words := by
  simpa [Shell.words?, split?, wordsFrom] using h ""

lemma Spells.words? {word : String} (h : Spells text.toList word.toList) : words? text = some [word] := by
  have hbetween := h.between []
  rw [List.append_nil] at hbetween
  simp [Shell.words?, split?, hbetween, wordsFrom]

lemma fronts_word {word : String} (h : Spells text.toList word.toList) : Fronts (text ++ " ") [word] := by
  intro rest
  rw [Shell.words?, Shell.words?, split?, split?, String.append_assoc, String.toList_append, h.between,
    String.toList_append]
  simp only [String.reduceToList, List.cons_append, List.nil_append, wordsFrom]
  simp [isWordGap, Function.comp_def]

lemma fronts_fixed (word : String) (h : isFixedWord word) : Fronts (word ++ " ") [word] :=
  fronts_word (writes_fixed h).spells

lemma spells_definition (hname : IsPortable name) (hvalue : quote value = .ok arg) :
    Spells (name ++ "=" ++ arg).toList (name ++ "=" ++ value).toList := by
  have hchars : Spells name.toList name.toList :=
    spells_ordinary hname.ne_nil fun c hc => isOrdinary_of_isBareChar (isBareChar_of_mem_portable hname c hc)
  have hstart : Spells (name.toList ++ ['=']) (name.toList ++ ['=']) :=
    hchars.append (spells_ordinary (by simp) (List.all_eq_true.mp (by decide)))
  simpa using hstart.append (writes_of_quote hvalue).spells

lemma fronts_definition (hname : IsPortable name) (hvalue : quote value = .ok arg) :
    Fronts (name ++ "=" ++ arg ++ "; ") [name ++ "=" ++ value ++ ";"] := by
  have hend : Spells [';'] [';'] := spells_ordinary (by simp) (List.all_eq_true.mp (by decide))
  have hword : Spells (name ++ "=" ++ arg ++ ";").toList (name ++ "=" ++ value ++ ";").toList := by
    simpa using (spells_definition hname hvalue).append hend
  simpa [String.append_assoc] using fronts_word hword

end Shell

namespace SshTarget

inductive Enters : Option String → String → Prop
  | stay : Enters none ""
  | move {dir arg : String} (h : quote dir = .ok arg) : Enters (some dir) ("cd " ++ arg ++ " && ")

inductive Exports : List (String × String) → String → Prop
  | nil : Exports [] ""
  | cons {name value arg text : String} {env : List (String × String)} (hname : IsPortable name)
      (hvalue : quote value = .ok arg) (rest : Exports env text) :
      Exports ((name, value) :: env) ("export " ++ name ++ "=" ++ arg ++ "; " ++ text)

variable {d : Option String} {env : List (String × String)} {r : CommandRequest}

lemma enterDir_eq_ok : enterDir d = .ok text ↔ Enters d text := by
  constructor
  · intro h
    cases d with
    | none =>
      cases h
      exact .stay
    | some dir =>
      rw [enterDir] at h
      cases hdir : quote dir with
      | error f =>
        rw [hdir] at h
        cases h
      | ok arg =>
        rw [hdir] at h
        cases h
        exact .move hdir
  · rintro (_ | h)
    · rfl
    · rw [enterDir, h]
      rfl

lemma exportOf_eq_ok : exportOf name value = .ok text ↔
    IsPortable name ∧ ∃ arg, quote value = .ok arg ∧
      text = "export " ++ name ++ "=" ++ arg ++ "; " := by
  rw [exportOf]
  constructor
  · intro h
    cases hname : envName name with
    | error f =>
      rw [hname] at h
      cases h
    | ok name' =>
      obtain ⟨hportable, rfl⟩ := envName_eq_ok.mp hname
      cases hvalue : quote value with
      | error f =>
        rw [hname, hvalue] at h
        cases h
      | ok arg =>
        rw [hname, hvalue] at h
        cases h
        exact ⟨hportable, arg, rfl, rfl⟩
  · rintro ⟨hportable, arg, hvalue, rfl⟩
    rw [envName_eq_ok.mpr ⟨hportable, rfl⟩, hvalue]
    rfl

lemma exports_of_mapM {texts : List String}
    (h : env.mapM (fun v => exportOf v.1 v.2) = .ok texts) : Exports env (String.join texts) := by
  induction env generalizing texts with
  | nil =>
    cases h
    exact .nil
  | cons v env ih =>
    rw [List.mapM_cons] at h
    cases hhead : exportOf v.1 v.2 with
    | error f =>
      rw [hhead] at h
      cases h
    | ok text =>
      cases hrest : env.mapM (fun v => exportOf v.1 v.2) with
      | error f =>
        rw [hhead, hrest] at h
        cases h
      | ok texts' =>
        rw [hhead, hrest] at h
        cases h
        obtain ⟨hname, arg, hvalue, rfl⟩ := exportOf_eq_ok.mp hhead
        rw [String.join_cons]
        exact .cons hname hvalue (ih hrest)

lemma Exports.exists_mapM (h : Exports env text) :
    ∃ texts, env.mapM (fun v => exportOf v.1 v.2) = .ok texts ∧ String.join texts = text := by
  induction h with
  | nil => exact ⟨[], rfl, rfl⟩
  | cons hname hvalue _ ih =>
    obtain ⟨texts, hrest, rfl⟩ := ih
    refine ⟨_ :: texts, ?_, String.join_cons⟩
    rw [List.mapM_cons, exportOf_eq_ok.mpr ⟨hname, _, hvalue, rfl⟩, hrest]
    rfl

lemma remoteLine_eq (r : CommandRequest) : remoteLine r = do
    let start ← enterDir r.dir
    let texts ← r.env.mapM fun v => exportOf v.1 v.2
    return start ++ String.join texts ++ r.command :=
  rfl

lemma remoteLine_eq_ok : remoteLine r = .ok line ↔
    ∃ start exports, Enters r.dir start ∧ Exports r.env exports ∧
      line = start ++ exports ++ r.command := by
  rw [remoteLine_eq]
  constructor
  · intro h
    cases hdir : enterDir r.dir with
    | error f =>
      rw [hdir] at h
      cases h
    | ok start =>
      cases henv : r.env.mapM fun v => exportOf v.1 v.2 with
      | error f =>
        rw [hdir, henv] at h
        cases h
      | ok texts =>
        rw [hdir, henv] at h
        cases h
        exact ⟨start, _, enterDir_eq_ok.mp hdir, exports_of_mapM henv, rfl⟩
  · rintro ⟨start, exports, hstart, hexports, rfl⟩
    obtain ⟨texts, henv, rfl⟩ := hexports.exists_mapM
    rw [enterDir_eq_ok.mpr hstart, henv]
    rfl

section Words

def dirWords : Option String → List String
  | none => []
  | some dir => ["cd", dir, "&&"]

def exportWords (v : String × String) : List String := ["export", v.1 ++ "=" ++ v.2 ++ ";"]

def frontWords (r : CommandRequest) : List String := dirWords r.dir ++ r.env.flatMap exportWords

lemma Enters.fronts (h : Enters d text) : Fronts text (dirWords d) := by
  cases h with
  | stay => exact fronts_nil
  | move hquote =>
    have hcd : Fronts "cd " ["cd"] := fronts_fixed "cd" rfl
    have hand : Fronts "&& " ["&&"] := fronts_fixed "&&" rfl
    simpa [String.append_assoc, dirWords] using
      (hcd.append (fronts_word (writes_of_quote hquote).spells)).append hand

lemma Exports.fronts (h : Exports env text) : Fronts text (env.flatMap exportWords) := by
  induction h with
  | nil => exact fronts_nil
  | @cons name value arg text env hname hvalue _ ih =>
    have hexport : Fronts "export " ["export"] := fronts_fixed "export" rfl
    have hline := (hexport.append (fronts_definition hname hvalue)).append ih
    simpa [String.append_assoc, exportWords] using hline

lemma exists_enters (h : ∀ dir ∈ d, ¬ holdsNul dir) : ∃ text, Enters d text := by
  cases d with
  | none => exact ⟨_, .stay⟩
  | some dir =>
    obtain ⟨arg, harg, -⟩ := exists_quote (h dir rfl)
    exact ⟨_, .move harg⟩

lemma Enters.noNul (h : Enters d text) : ∀ dir ∈ d, ¬ holdsNul dir := by
  rintro dir rfl
  cases h with
  | move hquote => exact noNul_of_quote hquote

lemma exists_exports (h : ∀ v ∈ env, IsPortable v.1 ∧ ¬ holdsNul v.2) : ∃ text, Exports env text := by
  induction env with
  | nil => exact ⟨_, .nil⟩
  | cons v env ih =>
    obtain ⟨⟨hname, hvalue⟩, hrest⟩ := List.forall_mem_cons.mp h
    obtain ⟨arg, harg, -⟩ := exists_quote hvalue
    obtain ⟨text, htext⟩ := ih hrest
    exact ⟨_, .cons hname harg htext⟩

lemma Exports.portable (h : Exports env text) : ∀ v ∈ env, IsPortable v.1 ∧ ¬ holdsNul v.2 := by
  induction h with
  | nil => simp
  | cons hname hvalue _ ih => exact List.forall_mem_cons.mpr ⟨⟨hname, noNul_of_quote hvalue⟩, ih⟩

/-- A request has a line if no shell would take a part of it for something else, and then its directory
and its variables are read from the line unchanged, before whatever is read of the command. -/
theorem remoteLine_words (r : CommandRequest) :
    ((∃ line, remoteLine r = .ok line) ↔
      (∀ dir ∈ r.dir, ¬ holdsNul dir) ∧ ∀ v ∈ r.env, IsPortable v.1 ∧ ¬ holdsNul v.2) ∧
    ∀ line, remoteLine r = .ok line → ∃ front, line = front ++ r.command ∧
      words? front = some (frontWords r) ∧
      words? line = (words? r.command).map (frontWords r ++ ·) := by
  refine ⟨⟨?_, ?_⟩, ?_⟩
  · rintro ⟨line, hline⟩
    obtain ⟨start, exports, hstart, hexports, -⟩ := remoteLine_eq_ok.mp hline
    exact ⟨hstart.noNul, hexports.portable⟩
  · rintro ⟨hdir, henv⟩
    obtain ⟨start, hstart⟩ := exists_enters hdir
    obtain ⟨exports, hexports⟩ := exists_exports henv
    exact ⟨_, remoteLine_eq_ok.mpr ⟨start, exports, hstart, hexports, rfl⟩⟩
  · intro line hline
    obtain ⟨start, exports, hstart, hexports, rfl⟩ := remoteLine_eq_ok.mp hline
    have hfront := hstart.fronts.append hexports.fronts
    exact ⟨start ++ exports, rfl, hfront.words?, hfront r.command⟩

end Words

end SshTarget

end HostProbe
