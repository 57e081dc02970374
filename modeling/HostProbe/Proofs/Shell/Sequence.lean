import HostProbe.Proofs.Shell.Line

/-! Lists of commands, as POSIX has them: a command runs always, or depending on what became of the last one
that ran. What joins commands counts outside quotes only, so a quoted argument never ends the command in
which it stands. Commands that have commands as parts are not taken apart. -/

namespace HostProbe.Shell

variable {σ : Type} {c : Char} {s q rest text before : List Char} {styles : Styles}

section Reading

inductive Joint where
  | always
  | ifOk
  | ifNot
  deriving DecidableEq, Repr

structure Part where
  joint : Joint
  text : String
  deriving DecidableEq, Repr

namespace Place

def opening (c : Char) : Place :=
  if c = '"' then .double else if c = '\x27' then .single else if c = '\\' then .escaped else .plain

def after : Place → Char → Place
  | .between, c => if isWordGap c then .between else if c = '#' then .comment else opening c
  | .comment, c => if c = '\n' then .between else .comment
  | .plain, c => if isWordGap c then .between else opening c
  | .escaped, _ => .plain
  | .single, c => if c = '\x27' then .plain else .single
  | .double, c => if c = '"' then .plain else if c = '\\' then .doubleEscaped else .double
  | .doubleEscaped, _ => .double

def isQuoted : Place → Bool
  | .between | .comment | .plain => false
  | .escaped | .single | .double | .doubleEscaped => true

end Place

def partOf (joint : Joint) (text : List Char) : List Part :=
  if text = [] then [] else [⟨joint, String.ofList text⟩]

/-- What joins the next command if the text read is ended by `new`; what ends no command joins none. -/
def Joint.past (joint : Joint) (text : List Char) (new : Joint) : Joint :=
  if text = [] then joint else new

/-- The commands from a place on, where `text` is what is read of the current one. Comments, and blanks
before a command, belong to none. -/
def partsFrom : Place → Joint → List Char → List Char → List Part
  | _, joint, text, [] => partOf joint text
  | p, joint, text, c :: s =>
    let onward := if isWordGap c ∧ text = [] then partsFrom .between joint [] s
      else partsFrom (p.after c) joint (text ++ [c]) s
    if p.after c = .comment then partsFrom .comment joint text s
    else if p.isQuoted then partsFrom (p.after c) joint (text ++ [c]) s
    else if c = ';' ∨ c = '\n' then
      partOf joint text ++ partsFrom .between (joint.past text .always) [] s
    else match c, s with
      | '&', '&' :: s => partOf joint text ++ partsFrom .between (joint.past text .ifOk) [] s
      | '|', '|' :: s => partOf joint text ++ partsFrom .between (joint.past text .ifNot) [] s
      | _, _ => onward

def partsAfter (joint : Joint) (text : String) : List Part := partsFrom .between joint [] text.toList

def parts (line : String) : List Part := partsAfter .always line

end Reading

section Running

def Joint.admits : Joint → Bool → Bool
  | .always, _ => true
  | .ifOk, ok => ok
  | .ifNot, ok => !ok

variable (exec : String → σ → Bool × σ)

/-- Runs a command, where `last` is what became of the last one that ran, and the state in which it left
things. -/
def runPart (last : Bool × σ) (part : Part) : Bool × σ :=
  if part.joint.admits last.1 then exec part.text last.2 else last

def runParts (ps : List Part) (last : Bool × σ) : Bool × σ := ps.foldl (runPart exec) last

def runLine (line : String) (s : σ) : Bool × σ := runParts exec (parts line) (true, s)

end Running

section Standing

def isInner (c : Char) : Bool := isOrdinary c && c != ';' && c != '&' && c != '|'

lemma isInner_of_isBareChar (h : isBareChar c) : isInner c := by
  simp only [isInner, isOrdinary_of_isBareChar h, Bool.true_and, Bool.and_eq_true, bne_iff_ne]
  refine ⟨⟨?_, ?_⟩, ?_⟩
  all_goals rintro rfl; cases h

lemma opening_ne_comment : Place.opening c ≠ .comment := by
  unfold Place.opening
  split_ifs <;> simp

lemma partsFrom_quoted {p : Place} (h : p.isQuoted) (joint : Joint) :
    partsFrom p joint before (c :: s) = partsFrom (p.after c) joint (before ++ [c]) s := by
  have hafter : p.after c ≠ .comment := by
    cases p <;> simp only [Place.after, Place.isQuoted, Bool.false_eq_true] at h ⊢
    all_goals first | split_ifs <;> simp | simp
  rw [partsFrom.eq_def]
  simp [h, hafter]

lemma partsFrom_plain (h : opensWord c) (hsemi : c ≠ ';') (hand : c ≠ '&') (hor : c ≠ '|')
    (joint : Joint) :
    partsFrom .plain joint before (c :: s) =
      partsFrom (Place.opening c) joint (before ++ [c]) s := by
  obtain ⟨hgap, -⟩ : isWordGap c = false ∧ c ≠ '#' := by simpa [opensWord] using h
  have hline : c ≠ '\n' := by
    rintro rfl
    cases hgap
  rw [partsFrom.eq_def]
  simp [Place.after, hgap, opening_ne_comment, Place.isQuoted, hline, hsemi, hand, hor]

lemma partsFrom_between (h : opensWord c) (joint : Joint) :
    partsFrom .between joint before (c :: s) = partsFrom .plain joint before (c :: s) := by
  obtain ⟨hgap, hcomment⟩ : isWordGap c = false ∧ c ≠ '#' := by simpa [opensWord] using h
  have hafter : Place.between.after c = Place.plain.after c := by
    simp [Place.after, hgap, hcomment]
  rw [partsFrom.eq_def, partsFrom.eq_def]
  simp [hafter, Place.isQuoted]

lemma isInner_iff : isInner c ↔ isOrdinary c ∧ c ≠ ';' ∧ c ≠ '&' ∧ c ≠ '|' := by
  simp [isInner, and_assoc]

lemma partsFrom_inner (h : ∀ c ∈ s, isInner c) (joint : Joint) :
    partsFrom .plain joint before (s ++ rest) = partsFrom .plain joint (before ++ s) rest := by
  induction s generalizing before with
  | nil => simp
  | cons c s ih =>
    obtain ⟨hc, hs⟩ := List.forall_mem_cons.mp h
    obtain ⟨hordinary, hsemi, hand, hor⟩ := isInner_iff.mp hc
    obtain ⟨-, -, hdouble, hsingle, hescape⟩ := isOrdinary_iff.mp hordinary
    rw [List.cons_append, partsFrom_plain (opensWord_of_isOrdinary hordinary) hsemi hand hor,
      Place.opening, if_neg hdouble, if_neg hsingle, if_neg hescape, ih hs, List.append_assoc,
      List.singleton_append]

lemma partsFrom_single (h : ∀ c ∈ s, c ≠ '\x27') (joint : Joint) :
    partsFrom .single joint before (s ++ '\x27' :: rest) =
      partsFrom .plain joint (before ++ s ++ ['\x27']) rest := by
  induction s generalizing before with
  | nil => simp [partsFrom_quoted (p := .single) rfl, Place.after]
  | cons c s ih =>
    obtain ⟨hc, hs⟩ := List.forall_mem_cons.mp h
    rw [List.cons_append, partsFrom_quoted rfl, Place.after, if_neg hc, ih hs, List.append_assoc before,
      List.singleton_append]

lemma partsFrom_double (s : List Char) (joint : Joint) :
    partsFrom .double joint before (s.flatMap escapeDouble ++ '"' :: rest) =
      partsFrom .plain joint (before ++ s.flatMap escapeDouble ++ ['"']) rest := by
  induction s generalizing before with
  | nil => simp [partsFrom_quoted (p := .double) rfl, Place.after]
  | cons c s ih =>
    have hstep : ∀ tail, partsFrom .double joint before (escapeDouble c ++ tail) =
        partsFrom .double joint (before ++ escapeDouble c) tail := by
      intro tail
      by_cases hc : c = '$' ∨ c = '\x60' ∨ c = '"' ∨ c = '\\'
      · rw [escapeDouble, if_pos hc]
        simp [partsFrom_quoted (p := .double) rfl, partsFrom_quoted (p := .doubleEscaped) rfl,
          Place.after]
      · rw [escapeDouble, if_neg hc]
        simp only [not_or] at hc
        simp [partsFrom_quoted (p := .double) rfl, Place.after, hc]
    rw [List.flatMap_cons, List.append_assoc, hstep, ih]
    simp only [List.append_assoc]

structure Stands (text : List Char) : Prop where
  reads : ∀ joint before rest,
    partsFrom .plain joint before (text ++ rest) = partsFrom .plain joint (before ++ text) rest
  opens : ∃ c s, text = c :: s ∧ opensWord c

lemma stands_inner (hs : s ≠ []) (h : ∀ c ∈ s, isInner c) : Stands s where
  reads joint before rest := partsFrom_inner h joint
  opens := by
    cases s with
    | nil => exact absurd rfl hs
    | cons c s => exact ⟨c, s, rfl, opensWord_of_isOrdinary (isInner_iff.mp (h c List.mem_cons_self)).1⟩

lemma Stands.append {a b : List Char} (h : Stands a) (h' : Stands b) : Stands (a ++ b) where
  reads joint before rest := by rw [List.append_assoc, h.reads, h'.reads, List.append_assoc]
  opens := by
    obtain ⟨c, s, rfl, hc⟩ := h.opens
    exact ⟨c, s ++ b, rfl, hc⟩

lemma Stands.between (h : Stands text) (joint : Joint) :
    partsFrom .between joint before (text ++ rest) = partsFrom .plain joint (before ++ text) rest := by
  rw [← h.reads]
  obtain ⟨c, s, rfl, hopens⟩ := h.opens
  exact partsFrom_between hopens joint

lemma stands_single (h : ∀ c ∈ s, c ≠ '\x27') : Stands (['\x27'] ++ s ++ ['\x27']) where
  reads joint before rest := by
    rw [List.append_assoc, List.append_assoc, List.singleton_append,
      partsFrom_plain rfl (by decide) (by decide) (by decide), Place.opening, if_neg (by decide),
      if_pos rfl, List.singleton_append, partsFrom_single h]
    simp only [List.append_assoc]
  opens := ⟨_, _, rfl, rfl⟩

lemma stands_double (s : List Char) : Stands (['"'] ++ s.flatMap escapeDouble ++ ['"']) where
  reads joint before rest := by
    rw [List.append_assoc, List.append_assoc, List.singleton_append,
      partsFrom_plain rfl (by decide) (by decide) (by decide), Place.opening, if_pos rfl,
      List.singleton_append, partsFrom_double]
    simp only [List.append_assoc]
  opens := ⟨_, _, rfl, rfl⟩

lemma stands_writeChunk (h : styles.Fits (c :: s)) : Stands (writeChunk styles (c :: s)) := by
  rw [writeChunk]
  split
  · next hbare =>
    exact stands_inner (by simp) fun d hd => isInner_of_isBareChar (h.bare hbare d hd)
  · split
    · next hsingle => exact stands_single (h.single hsingle)
    · exact stands_double (c :: s)

lemma stands_writeChunks (hs : s ≠ []) : Stands (writeChunks s) := by
  induction s using writeChunks.induct with
  | case1 => exact absurd rfl hs
  | case2 c s piece ih =>
    rw [writeChunks]
    have hfirst := stands_writeChunk (fits_firstChunk c s)
    by_cases hrest : piece.2.2 = []
    · simpa [piece, hrest, writeChunks] using hfirst
    · exact hfirst.append (ih hrest)

lemma stands_quote (h : quote? s = some q) : Stands q := by
  rw [quote?] at h
  split at h
  · cases h
    exact stands_single (s := []) (by simp)
  · next hs =>
    split at h
    · cases h
    · cases h
      exact stands_writeChunks hs

end Standing

section Joints

variable {joint next last : Joint} {ps qs : List Part}

def Begins (joint : Joint) (ps : List Part) : Prop := ps = [] ∨ ∃ t qs, ps = ⟨joint, t⟩ :: qs

lemma begins_cut (h : Begins (joint.past text next) ps) : Begins joint (partOf joint text ++ ps) := by
  by_cases htext : text = []
  · simpa [partOf, Joint.past, htext] using h
  · exact .inr ⟨String.ofList text, ps, by simp [partOf, htext]⟩

lemma begins_partsFrom (p : Place) (joint : Joint) (text s : List Char) :
    Begins joint (partsFrom p joint text s) := by
  -- The joint is carried along until some command is not empty, and that one takes it.
  fun_induction partsFrom p joint text s with
  | case1 p joint text =>
    have hend : Begins (joint.past text joint) [] := .inl rfl
    simpa using begins_cut hend
  | case2 p joint text c s onward hcomment _ ih => exact ih
  | case3 p joint text c s onward hcomment hquoted ih => exact ih
  | case4 p joint text c s onward hcomment hquoted hline _ ih => exact begins_cut ih
  | case5 p joint text s onward hcomment hquoted hline _ ih => exact begins_cut ih
  | case6 p joint text s onward hcomment hquoted hline _ ih => exact begins_cut ih
  | case7 p joint text c s onward hcomment hquoted hline hand hor ihgap ih =>
    change Begins joint (if isWordGap c ∧ text = [] then _ else _)
    split_ifs
    · exact ihgap
    · exact ih

/-- A text that holds commands, the first of which stands after the one joint, and after which the next
command stands after the other. -/
def Holds (joint : Joint) (text : String) (ps : List Part) (next : Joint) : Prop :=
  ∀ rest, partsAfter joint (text ++ rest) = ps ++ partsAfter next rest

lemma holds_nil : Holds joint "" [] joint := fun rest => by simp

lemma Holds.append {text text' : String} (h : Holds joint text ps next)
    (h' : Holds next text' qs last) : Holds joint (text ++ text') (ps ++ qs) last := by
  intro rest
  rw [String.append_assoc, h, h', List.append_assoc]

lemma partsFrom_space (h : text ≠ []) (joint : Joint) :
    partsFrom .plain joint text (' ' :: s) = partsFrom .between joint (text ++ [' ']) s := by
  simp [partsFrom, Place.after, isWordGap, Place.isQuoted, h]

variable {a b : String}

lemma partsFrom_words (ha : Stands a.toList) (hb : Stands b.toList) (joint : Joint) (rest : List Char) :
    partsFrom .between joint [] ((a ++ " " ++ b).toList ++ rest) =
      partsFrom .plain joint (a ++ " " ++ b).toList rest := by
  have hne : a.toList ≠ [] := by
    obtain ⟨c, s, hchars, -⟩ := ha.opens
    simp [hchars]
  simp only [String.toList_append, String.reduceToList, List.append_assoc, ha.between,
    List.nil_append, List.cons_append]
  rw [partsFrom_space hne, hb.between]
  simp

lemma partsFrom_and (h : text ≠ []) (joint : Joint) (s : List Char) :
    partsFrom .plain joint text (" && ".toList ++ s) =
      ⟨joint, String.ofList (text ++ [' '])⟩ :: partsFrom .between .ifOk [] s := by
  simp only [String.reduceToList, List.cons_append, List.nil_append]
  rw [partsFrom_space h]
  simp [partsFrom, Place.after, Place.isQuoted, Place.opening, isWordGap, partOf, Joint.past]

lemma partsFrom_semicolon (h : text ≠ []) (joint : Joint) (s : List Char) :
    partsFrom .plain joint text ("; ".toList ++ s) =
      ⟨joint, String.ofList text⟩ :: partsFrom .between .always [] s := by
  simp [partsFrom, Place.after, Place.isQuoted, Place.opening, isWordGap, partOf, Joint.past, h]

lemma holds_and (ha : Stands a.toList) (hb : Stands b.toList) (joint : Joint) :
    Holds joint (a ++ " " ++ b ++ " && ") [⟨joint, a ++ " " ++ b ++ " "⟩] .ifOk := by
  intro rest
  have hwords := partsFrom_words ha hb joint (" && ".toList ++ rest.toList)
  rw [partsFrom_and (by simp)] at hwords
  simpa [partsAfter, String.append_assoc] using hwords

lemma holds_semicolon (ha : Stands a.toList) (hb : Stands b.toList) (joint : Joint) :
    Holds joint (a ++ " " ++ b ++ "; ") [⟨joint, a ++ " " ++ b⟩] .always := by
  intro rest
  have hwords := partsFrom_words ha hb joint ("; ".toList ++ rest.toList)
  rw [partsFrom_semicolon (by simp)] at hwords
  simpa [partsAfter, String.append_assoc] using hwords

end Joints

section Outcome

variable {exec : String → σ → Bool × σ} {ps : List Part} {line : String}

lemma runParts_append (ps qs : List Part) (last : Bool × σ) :
    runParts exec (ps ++ qs) last = runParts exec qs (runParts exec ps last) :=
  List.foldl_append

lemma runParts_snd (line : String) (ok ok' : Bool) (s : σ) :
    (runParts exec (parts line) (ok, s)).2 = (runParts exec (parts line) (ok', s)).2 := by
  obtain hnone | ⟨t, ps, hparts⟩ := begins_partsFrom .between .always [] line.toList
  · rw [parts, partsAfter, hnone]
    rfl
  · rw [parts, partsAfter, hparts]
    rfl

lemma runParts_ifOk (h : ∀ part ∈ ps, part.joint = .ifOk) (s : σ) :
    runParts exec ps (false, s) = (false, s) := by
  induction ps with
  | nil => rfl
  | cons part ps ih =>
    obtain ⟨hpart, hps⟩ := List.forall_mem_cons.mp h
    rw [runParts, List.foldl_cons, runPart, hpart]
    exact ih hps

lemma runParts_always (texts : List String) (last : Bool × σ) :
    (runParts exec (texts.map (Part.mk .always)) last).2 =
      texts.foldl (fun s text => (exec text s).2) last.2 := by
  induction texts generalizing last with
  | nil => rfl
  | cons t texts ih => exact ih (exec t last.2)

end Outcome

end HostProbe.Shell
