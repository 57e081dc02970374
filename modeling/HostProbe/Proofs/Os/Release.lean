import HostProbe.Os.Release
import HostProbe.Proofs.Text.Pieces
import Mathlib.Logic.Relation

/-! What a machine is taken for by its os-release file. Four keys decide it, each by the last line that
assigns to it; so it is the same for files that differ in other lines only, in the order of lines with
different keys, or in the quotes around a value. -/

namespace HostProbe.Os.Release

open HostProbe.Text

def Assigns (line key value : List Char) : Prop :=
  ∃ front back, line = front ++ '=' :: back ∧ '=' ∉ front ∧ trim front = key ∧ key.head? ≠ some '#' ∧
    unquoted back = value

def Gives (content key value : String) : Prop :=
  ∃ earlier line later, lines content.toList = earlier ++ line :: later ∧
    Assigns line key.toList value.toList ∧ ∀ l ∈ later, ∀ v, ¬ Assigns l key.toList v

variable {line front back key value : List Char} {ls earlier later : List (List Char)}

section Lines

lemma unquoted_dropRightWhile (back : List Char) :
    unquoted (dropRightWhile isBlank back) = unquoted back := by
  have htrim : trim (dropRightWhile isBlank back) = trim back := trimBy_dropRightWhile isBlank back
  rw [unquoted, unquoted, htrim]

lemma trim_dropWhile (front : List Char) : trim (front.dropWhile isBlank) = trim front := by
  rw [trim, trimBy, List.dropWhile_idempotent]
  rfl

lemma assignment?_of_mark (h : '=' ∉ front) (back : List Char) :
    assignment? (front ++ '=' :: back) =
      if (trim front).head? = some '#' then none else some (trim front, unquoted back) := by
  have hblank : isBlank '=' = false := by decide
  have htrim : trim (front ++ '=' :: back) = _ := trimBy_append_cons hblank front back
  have hmark : '=' ∉ front.dropWhile isBlank := fun hmem => h (List.dropWhile_subset _ hmem)
  rw [assignment?, htrim, head?_trim, ← trim_dropWhile front, ← unquoted_dropRightWhile back]
  cases hfront : front.dropWhile isBlank with
  | nil => simp [splitOnce?, dropStart?]
  | cons c rest =>
    rw [hfront] at hmark
    by_cases hc : c = '#'
    · simp [hc]
    · have hsplit : splitOnce? ['='] (c :: rest ++ '=' :: dropRightWhile isBlank back) = _ :=
        splitOnce?_append hmark
      simp only [List.cons_append] at hsplit ⊢
      simp [hc, hsplit]

lemma assignment?_of_no_mark (h : '=' ∉ line) : assignment? line = none := by
  have htrim : '=' ∉ trim line := fun hmem =>
    h (List.dropWhile_subset _ ((List.rdropWhile_prefix isBlank _).subset hmem))
  unfold assignment?
  split
  · rfl
  · rfl
  · rw [splitOnce?_eq_none htrim]
    rfl

lemma assignment?_eq_some_iff : assignment? line = some (key, value) ↔ Assigns line key value := by
  constructor
  · intro h
    by_cases hmark : '=' ∈ line
    · obtain ⟨front, back, rfl, hfront⟩ := List.eq_append_cons_of_mem hmark
      rw [assignment?_of_mark hfront] at h
      split at h
      · cases h
      · next hcomment =>
        cases h
        exact ⟨front, back, rfl, hfront, rfl, hcomment, rfl⟩
    · rw [assignment?_of_no_mark hmark] at h
      cases h
  · rintro ⟨front, back, rfl, hfront, rfl, hcomment, rfl⟩
    rw [assignment?_of_mark hfront, if_neg hcomment]

end Lines

section Last

def given? (key : String) (line : List Char) : Option String :=
  (assignment? line).bind fun f => if f.1 = key.toList then some (String.ofList f.2) else none

lemma given?_eq_some_iff {key value : String} :
    given? key line = some value ↔ Assigns line key.toList value.toList := by
  rw [← assignment?_eq_some_iff, given?]
  cases assignment? line with
  | none => simp
  | some f =>
    obtain ⟨k, v⟩ := f
    by_cases hk : k = key.toList
    · simp [hk, ← String.toList_inj]
    · simp [hk]

lemma Assigns.given? {key : String} (h : Assigns line key.toList value) :
    given? key line = some (String.ofList value) := by
  rw [given?_eq_some_iff, String.toList_ofList]
  exact h

lemma given?_eq_none_iff {key : String} :
    given? key line = none ↔ ∀ value, ¬ Assigns line key.toList value := by
  constructor
  · intro h value hassigns
    cases h.symm.trans hassigns.given?
  · intro h
    refine Option.eq_none_iff_forall_ne_some.mpr fun value hgiven => ?_
    exact h _ (given?_eq_some_iff.mp hgiven)

def lastGiven? (ls : List (List Char)) (key : String) : Option String := ls.reverse.findSome? (given? key)

lemma lastGiven?_append (earlier later : List (List Char)) (key : String) :
    lastGiven? (earlier ++ later) key = (lastGiven? later key).or (lastGiven? earlier key) := by
  rw [lastGiven?, List.reverse_append, List.findSome?_append]
  rfl

lemma lastGiven?_cons (line : List Char) (later : List (List Char)) (key : String) :
    lastGiven? (line :: later) key = (lastGiven? later key).or (given? key line) := by
  rw [← List.singleton_append, lastGiven?_append]
  congr 1
  simp [lastGiven?]

lemma value?_eq_lastGiven? (ls : List (List Char)) (key : String) :
    value? (ls.filterMap assignment?) key = lastGiven? ls key := by
  rw [value?, lastGiven?, ← List.filterMap_reverse]
  induction ls.reverse with
  | nil => rfl
  | cons line rest ih =>
    rw [List.findSome?_cons, given?]
    cases hline : assignment? line with
    | none =>
      rw [List.filterMap_cons_none hline]
      exact ih
    | some f =>
      rw [List.filterMap_cons_some hline]
      by_cases hf : f.1 = key.toList
      · simp [hf]
      · have hne : (f.1 == key.toList) = false := beq_false_of_ne hf
        rw [List.find?_cons_of_neg (by simp [hne])]
        simpa [hf] using ih

lemma lastGiven?_eq_some_iff {key value : String} :
    lastGiven? ls key = some value ↔ ∃ earlier line later, ls = earlier ++ line :: later ∧
      Assigns line key.toList value.toList ∧ ∀ l ∈ later, ∀ v, ¬ Assigns l key.toList v := by
  rw [lastGiven?, List.findSome?_eq_some_iff]
  constructor
  · rintro ⟨later, line, earlier, hls, hline, hlater⟩
    refine ⟨earlier.reverse, line, later.reverse, ?_, given?_eq_some_iff.mp hline, fun l hl => ?_⟩
    · rw [← List.reverse_reverse ls, hls]
      simp
    · exact given?_eq_none_iff.mp (hlater l (List.mem_reverse.mp hl))
  · rintro ⟨earlier, line, later, rfl, hline, hlater⟩
    refine ⟨later.reverse, line, earlier.reverse, by simp, given?_eq_some_iff.mpr hline, fun l hl => ?_⟩
    exact given?_eq_none_iff.mpr (hlater l (List.mem_reverse.mp hl))

lemma value?_eq_some_iff {content key value : String} :
    value? (assignments content) key = some value ↔ Gives content key value := by
  rw [assignments, value?_eq_lastGiven?]
  exact lastGiven?_eq_some_iff

lemma value?_eq_none_iff {content key : String} :
    value? (assignments content) key = none ↔ ∀ value, ¬ Gives content key value := by
  rw [Option.eq_none_iff_forall_ne_some]
  exact forall_congr' fun value => not_congr value?_eq_some_iff

def decisive : List String := ["ID", "ID_LIKE", "NAME", "VERSION_ID"]

lemma classify_congr {content content' : String}
    (h : ∀ key ∈ decisive, value? (assignments content) key = value? (assignments content') key) :
    classify content = classify content' := by
  have hid := h "ID" (by simp [decisive])
  have hlike := h "ID_LIKE" (by simp [decisive])
  have hname := h "NAME" (by simp [decisive])
  have hversion := h "VERSION_ID" (by simp [decisive])
  simp only [classify, hid, hlike, hname, hversion]

end Last

section Edits

inductive Idle (later : List (List Char)) (line : List Char) : Prop where
  | blank (h : trim line = [])
  | comment (h : (trim line).head? = some '#')
  | other {key value : List Char} (h : Assigns line key value) (hkey : ∀ k ∈ decisive, key ≠ k.toList)
  | superseded {key value value' again : List Char} (h : Assigns line key value) (hagain : again ∈ later)
      (hkey : Assigns again key value')

inductive Edit : List (List Char) → List (List Char) → Prop where
  | drop (earlier : List (List Char)) {later : List (List Char)} {line : List Char} (h : Idle later line) :
      Edit (earlier ++ line :: later) (earlier ++ later)
  | swap (earlier later : List (List Char)) {line next : List Char}
      (h : ∀ key value value', Assigns line key value → ¬ Assigns next key value') :
      Edit (earlier ++ line :: next :: later) (earlier ++ next :: line :: later)

lemma Assigns.unique {key' value' : List Char} (h : Assigns line key value) (h' : Assigns line key' value') :
    key = key' := by
  have hpair := (assignment?_eq_some_iff.mpr h).symm.trans (assignment?_eq_some_iff.mpr h')
  exact congrArg Prod.fst (Option.some.inj hpair)

lemma given?_of_other {key' : String} (h : Assigns line key value) (hkey : key ≠ key'.toList) :
    given? key' line = none := given?_eq_none_iff.mpr fun _ h' => hkey (h.unique h')

lemma assignment?_of_blank (h : trim line = []) : assignment? line = none := by rw [assignment?, h]

lemma assignment?_of_comment (h : (trim line).head? = some '#') : assignment? line = none := by
  obtain ⟨rest, hline⟩ := List.head?_eq_some_iff.mp h
  rw [assignment?, hline]
  rfl

lemma isSome_lastGiven? {key : String} (h : Assigns line key.toList value) (hline : line ∈ later) :
    (lastGiven? later key).isSome := by
  rw [lastGiven?, List.findSome?_isSome_iff]
  refine ⟨line, List.mem_reverse.mpr hline, ?_⟩
  rw [h.given?]
  rfl

lemma Idle.lastGiven?_cons {key : String} (h : Idle later line) (hkey : key ∈ decisive) :
    lastGiven? (line :: later) key = lastGiven? later key := by
  rw [Release.lastGiven?_cons]
  cases h with
  | blank h => simp [given?, assignment?_of_blank h]
  | comment h => simp [given?, assignment?_of_comment h]
  | other h hother => rw [given?_of_other h (hother key hkey), Option.or_none]
  | @superseded k _ _ _ h hagain hagainkey =>
    -- A later line decides the key of this one.
    by_cases hk : k = key.toList
    · subst hk
      obtain ⟨v, hv⟩ := Option.isSome_iff_exists.mp (isSome_lastGiven? hagainkey hagain)
      rw [hv]
      rfl
    · rw [given?_of_other h hk, Option.or_none]

lemma Edit.lastGiven?_eq {ls' : List (List Char)} {key : String} (h : Edit ls ls') (hkey : key ∈ decisive) :
    lastGiven? ls key = lastGiven? ls' key := by
  cases h with
  | drop _ h => rw [lastGiven?_append, lastGiven?_append, h.lastGiven?_cons hkey]
  | @swap _ _ line next h =>
    have heither : given? key line = none ∨ given? key next = none := by
      rcases hline : given? key line with _ | v
      · exact .inl rfl
      · exact .inr (given?_eq_none_iff.mpr fun w => h _ _ w (given?_eq_some_iff.mp hline))
    rw [lastGiven?_append, lastGiven?_append]
    simp only [lastGiven?_cons]
    rcases heither with hnone | hnone
    · simp [hnone]
    · simp [hnone]

lemma lastGiven?_of_edits {ls' : List (List Char)} {key : String} (h : Relation.EqvGen Edit ls ls')
    (hkey : key ∈ decisive) : lastGiven? ls key = lastGiven? ls' key := by
  induction h with
  | rel _ _ h => exact h.lastGiven?_eq hkey
  | refl _ => rfl
  | symm _ _ _ ih => exact ih.symm
  | trans _ _ _ _ _ ih ih' => exact ih.trans ih'

end Edits

section Quotes

inductive Quoting where
  | bare
  | double
  | single

namespace Quoting

def mark : Quoting → List Char
  | bare => []
  | double => ['"']
  | single => ['\x27']

def write (q : Quoting) (value : String) : String :=
  String.ofList (q.mark ++ value.toList ++ q.mark)

def assign (q : Quoting) (key pad value tail : String) : String :=
  key ++ "=" ++ pad ++ q.write value ++ tail

end Quoting

structure Plain (value : String) : Prop where
  line : '\n' ∉ value.toList
  trimmed : trim value.toList = value.toList
  first : ∀ c ∈ value.toList.head?, c ≠ '"' ∧ c ≠ '\x27'
  last : ∀ c ∈ value.toList.getLast?, c ≠ '"' ∧ c ≠ '\x27'

lemma trimBy_quoted {m : Char} {s : List Char} (h : trimBy (· == m) s = s) :
    trimBy (· == m) ([m] ++ s ++ [m]) = s := by
  rw [trimBy_append_right (by simp), trimBy_append_left (by simp), h]

lemma trimBy_other {q : Char → Bool} {m : Char} (h : q m = false) (s : List Char) :
    trimBy q ([m] ++ s ++ [m]) = [m] ++ s ++ [m] := by
  refine trimBy_eq_self_iff.mpr ⟨by simpa using h, ?_⟩
  rw [List.getLast?_concat]
  simpa using h

lemma unquoted_write {value : String} {pad tail : List Char} (hpad : ∀ c ∈ pad, isBlank c = true)
    (htail : ∀ c ∈ tail, isBlank c = true) (h : Plain value) (q : Quoting) :
    unquoted (pad ++ (q.write value).toList ++ tail) = value.toList := by
  have hdouble : trimBy (· == '"') value.toList = value.toList :=
    trimBy_eq_self_iff.mpr ⟨fun c hc => beq_false_of_ne (h.first c hc).1,
      fun c hc => beq_false_of_ne (h.last c hc).1⟩
  have hsingle : trimBy (· == '\x27') value.toList = value.toList :=
    trimBy_eq_self_iff.mpr ⟨fun c hc => beq_false_of_ne (h.first c hc).2,
      fun c hc => beq_false_of_ne (h.last c hc).2⟩
  have htrim (s : List Char) : trim (pad ++ s ++ tail) = trim s :=
    (trimBy_append_right htail).trans (trimBy_append_left hpad)
  rw [unquoted, htrim, Quoting.write, String.toList_ofList]
  cases q with
  | bare =>
    change trimBy _ (trimBy _ (trim ([] ++ value.toList ++ []))) = _
    rw [List.nil_append, List.append_nil, h.trimmed, hdouble, hsingle]
  | double =>
    have hblank : isBlank '"' = false := by decide
    change trimBy _ (trimBy _ (trim (['"'] ++ value.toList ++ ['"']))) = _
    rw [trim, trimBy_other hblank, trimBy_quoted hdouble, hsingle]
  | single =>
    have hblank : isBlank '\x27' = false := by decide
    have hother := trimBy_other (q := (· == '"')) (m := '\x27') (by decide) value.toList
    change trimBy _ (trimBy _ (trim (['\x27'] ++ value.toList ++ ['\x27']))) = _
    rw [trim, trimBy_other hblank, hother, trimBy_quoted hsingle]

lemma assignment?_congr {line' : List Char} (h : trim line = trim line') :
    assignment? line = assignment? line' := by
  rw [assignment?, assignment?, h]

lemma assignment?_dropCarriageReturn (line : List Char) :
    assignment? (dropCarriageReturn line) = assignment? line := by
  unfold dropCarriageReturn
  split
  · next hlast =>
    obtain ⟨front, rfl⟩ := List.getLast?_eq_some_iff.mp hlast
    have hblank : ∀ c ∈ ['\r'], isBlank c = true := List.forall_mem_singleton.mpr (by decide)
    rw [List.dropLast_concat]
    exact assignment?_congr (trimBy_append_right hblank).symm
  · rfl

lemma filterMap_endedLines (parts : List (List Char)) :
    (endedLines parts).filterMap assignment? = parts.filterMap assignment? := by
  induction parts with
  | nil => rfl
  | cons part parts ih =>
    cases parts with
    | nil =>
      cases part with
      | nil => rfl
      | cons c part => rfl
    | cons next parts =>
      change (dropCarriageReturn part :: endedLines (next :: parts)).filterMap assignment? = _
      rw [List.filterMap_cons, ih, assignment?_dropCarriageReturn, ← List.filterMap_cons]

structure Frames (before after : String) : Prop where
  starts : ∀ c ∈ before.toList.getLast?, c = '\n'
  ends : ∀ c ∈ after.toList.head?, c = '\n'

lemma Frames.splitAt_eq {before after : String} (h : Frames before after) : ∃ xs ys, ∀ line : String,
    '\n' ∉ line.toList → splitAt '\n' (before ++ line ++ after).toList = xs ++ line.toList :: ys := by
  have hafter : ∃ ys, ∀ line : List Char, '\n' ∉ line →
      splitAt '\n' (line ++ after.toList) = line :: ys := by
    cases hafter : after.toList with
    | nil => exact ⟨[], fun line hline => by rw [List.append_nil, splitAt_eq_singleton hline]⟩
    | cons c rest =>
      have hc : c = '\n' := h.ends c (by simp [hafter])
      subst hc
      exact ⟨splitAt '\n' rest, fun line hline => by
        rw [splitAt_append_cons, splitAt_eq_singleton hline, List.singleton_append]⟩
  obtain ⟨ys, hys⟩ := hafter
  rcases List.eq_nil_or_concat before.toList with hbefore | ⟨front, c, hbefore⟩
  · refine ⟨[], ys, fun line hline => ?_⟩
    rw [String.toList_append, String.toList_append, hbefore, List.nil_append, hys _ hline, List.nil_append]
  · rw [List.concat_eq_append] at hbefore
    have hc : c = '\n' := h.starts c (by simp [hbefore])
    subst hc
    refine ⟨splitAt '\n' front, ys, fun line hline => ?_⟩
    rw [String.toList_append, String.toList_append, hbefore, List.append_assoc, List.append_assoc,
      List.singleton_append, splitAt_append_cons, hys _ hline]

lemma assignments_eq (content : String) :
    assignments content = (splitAt '\n' content.toList).filterMap assignment? := filterMap_endedLines _

structure Fits (key pad tail : String) : Prop where
  key : '=' ∉ key.toList ∧ '\n' ∉ key.toList
  pad : ∀ c ∈ pad.toList, isBlank c = true ∧ c ≠ '\n'
  tail : ∀ c ∈ tail.toList, isBlank c = true ∧ c ≠ '\n'

variable {key pad value tail : String}

lemma Quoting.toList_assign (q : Quoting) (key pad value tail : String) :
    (q.assign key pad value tail).toList = key.toList ++ '=' :: (pad.toList ++ (q.write value).toList ++ tail.toList) := by
  have hmark : "=".toList = ['='] := rfl
  simp only [Quoting.assign, String.toList_append, hmark, List.append_assoc, List.cons_append,
    List.nil_append]

lemma Quoting.not_mem_assign (h : Fits key pad tail) (hvalue : Plain value) (q : Quoting) :
    '\n' ∉ (q.assign key pad value tail).toList := by
  have hmark : '\n' ∉ q.mark := by cases q <;> decide
  have hwrite : '\n' ∉ (q.write value).toList := by
    simp only [Quoting.write, String.toList_ofList, List.mem_append, not_or]
    exact ⟨⟨hmark, hvalue.line⟩, hmark⟩
  rw [q.toList_assign]
  simp only [List.mem_append, List.mem_cons, not_or]
  exact ⟨h.key.2, by decide, ⟨fun hc => (h.pad _ hc).2 rfl, hwrite⟩, fun hc => (h.tail _ hc).2 rfl⟩

lemma Quoting.assignment?_assign (h : Fits key pad tail) (hvalue : Plain value) (q : Quoting) :
    assignment? (q.assign key pad value tail).toList =
      if (trim key.toList).head? = some '#' then none else some (trim key.toList, value.toList) := by
  rw [q.toList_assign, assignment?_of_mark h.key.1,
    unquoted_write (fun c hc => (h.pad c hc).1) (fun c hc => (h.tail c hc).1) hvalue]

lemma classify_requoted {before after : String} (hframes : Frames before after) (h : Fits key pad tail)
    (hvalue : Plain value) (q q' : Quoting) :
    classify (before ++ q.assign key pad value tail ++ after) =
      classify (before ++ q'.assign key pad value tail ++ after) := by
  obtain ⟨xs, ys, hsplit⟩ := hframes.splitAt_eq
  have hfields : assignments (before ++ q.assign key pad value tail ++ after) =
      assignments (before ++ q'.assign key pad value tail ++ after) := by
    rw [assignments_eq, assignments_eq, hsplit _ (q.not_mem_assign h hvalue),
      hsplit _ (q'.not_mem_assign h hvalue)]
    simp only [List.filterMap_append, List.filterMap_cons, Quoting.assignment?_assign h hvalue]
  exact classify_congr fun _ _ => by rw [hfields]

end Quotes

section Family

inductive FamilyOf (id like : String) : OsFamily → Prop where
  | known {family : OsFamily} (hid : OsFamily.ofId? id = some family) : FamilyOf id like family
  | alike {family : OsFamily} {before after : List String} {word : String} (hid : OsFamily.ofId? id = none)
      (hwords : wordsOf like = before ++ word :: after) (hbefore : ∀ w ∈ before, OsFamily.ofId? w = none)
      (hword : OsFamily.ofId? word = some family) : FamilyOf id like family
  | unknown (hid : OsFamily.ofId? id = none) (hwords : ∀ w ∈ wordsOf like, OsFamily.ofId? w = none) :
      FamilyOf id like .unknown

lemma familyOf_family (id like : String) : FamilyOf id like (family id like) := by
  rw [family]
  cases hid : OsFamily.ofId? id with
  | some f => exact .known hid
  | none =>
    cases hwords : (wordsOf like).findSome? OsFamily.ofId? with
    | none => exact .unknown hid (List.findSome?_eq_none_iff.mp hwords)
    | some f =>
      obtain ⟨before, word, after, hlike, hword, hbefore⟩ := List.findSome?_eq_some_iff.mp hwords
      exact .alike hid hlike hbefore hword

def Says (content key text : String) : Prop :=
  Gives content key text ∨ (∀ value, ¬ Gives content key value) ∧ text = ""

lemma Says.value? {content key text : String} (h : Says content key text) :
    (value? (assignments content) key).getD "" = text := by
  rcases h with hgives | ⟨hnone, rfl⟩
  · rw [value?_eq_some_iff.mpr hgives]
    rfl
  · rw [value?_eq_none_iff.mpr hnone]
    rfl

lemma family_classify (content : String) : (classify content).family =
    family (lowerCase ((value? (assignments content) "ID").getD ""))
      (lowerCase ((value? (assignments content) "ID_LIKE").getD "")) := by
  rw [classify]

lemma version_classify (content : String) :
    (classify content).version = versionOf (value? (assignments content) "VERSION_ID") := by
  rw [classify]

end Family

/-- A system is classified by the last assignments to four keys. Dropping a line that does not count, or
swapping lines with different keys, or the reverse of these, over and over, does not change what it is
taken for, and neither does quoting a value. Its family is that of its id, if this is known, else that of
the first known word of the ids it is like; a version that is missing or cannot be read is zero. -/
theorem classification_by_last_assignments :
    (∀ content content', (∀ key ∈ decisive, ∀ value, Gives content key value ↔ Gives content' key value) →
      classify content = classify content') ∧
    (∀ content content' : String, Relation.EqvGen Edit (lines content.toList) (lines content'.toList) →
      classify content = classify content') ∧
    (∀ before key pad value tail after : String, Frames before after → Fits key pad tail → Plain value →
      ∀ q q' : Quoting, classify (before ++ q.assign key pad value tail ++ after) =
        classify (before ++ q'.assign key pad value tail ++ after)) ∧
    ∀ content, (∀ id like, Says content "ID" id → Says content "ID_LIKE" like →
        FamilyOf (lowerCase id) (lowerCase like) (classify content).family) ∧
      (∀ text v, Gives content "VERSION_ID" text → Version.parse text = .ok v →
        (classify content).version = v) ∧
      ((∀ text, Gives content "VERSION_ID" text → ∃ f, Version.parse text = .error f) →
        (classify content).version = .release 0 0 0) := by
  refine ⟨fun content content' h => classify_congr fun key hkey => Option.ext fun value => ?_,
    fun content content' h => classify_congr fun key hkey => ?_,
    fun before key pad value tail after hframes h hvalue => classify_requoted hframes h hvalue,
    fun content => ⟨fun id like hid hlike => ?_, fun text v hgives hparse => ?_, fun h => ?_⟩⟩
  · rw [value?_eq_some_iff, value?_eq_some_iff]
    exact h key hkey value
  · rw [assignments, assignments, value?_eq_lastGiven?, value?_eq_lastGiven?]
    exact lastGiven?_of_edits h hkey
  · rw [family_classify, hid.value?, hlike.value?]
    exact familyOf_family _ _
  · rw [version_classify, value?_eq_some_iff.mpr hgives, versionOf, hparse]
  · rw [version_classify]
    cases htext : value? (assignments content) "VERSION_ID" with
    | none => rfl
    | some text =>
      obtain ⟨f, hf⟩ := h text (value?_eq_some_iff.mp htext)
      rw [versionOf, hf]
      rfl

theorem classification_by_last_assignments_reordered :
    let content := "ID=debian\nNAME=Box\nID=ubuntu\n"
    let content' := "ID=ubuntu\nNAME=Box\n"
    (∀ key ∈ decisive, ∀ value, Gives content key value ↔ Gives content' key value) ∧
      Relation.EqvGen Edit (lines content.toList) (lines content'.toList) ∧
      classify content = classify content' ∧
      classify ("" ++ Quoting.double.assign "ID" "" "ubuntu" "" ++ "\nNAME=Box\n") =
        classify ("" ++ Quoting.bare.assign "ID" "" "ubuntu" "" ++ "\nNAME=Box\n") ∧
      FamilyOf "ubuntu" "" (classify content').family ∧ (classify content').version = .release 0 0 0 := by
  intro content content'
  obtain ⟨hlast, hedits, hquotes, hparts⟩ := classification_by_last_assignments
  have hgives : ∀ key ∈ decisive, ∀ value, Gives content key value ↔ Gives content' key value := by
    intro key hkey value
    have hsame : ∀ key ∈ decisive,
        value? (assignments content) key = value? (assignments content') key := by decide +kernel
    rw [← value?_eq_some_iff, ← value?_eq_some_iff, hsame key hkey]
  have hdebian : Assigns "ID=debian".toList "ID".toList "debian".toList :=
    assignment?_eq_some_iff.mp (by decide +kernel)
  have hubuntu : Assigns "ID=ubuntu".toList "ID".toList "ubuntu".toList :=
    assignment?_eq_some_iff.mp (by decide +kernel)
  have hname : Assigns "NAME=Box".toList "NAME".toList "Box".toList :=
    assignment?_eq_some_iff.mp (by decide +kernel)
  have hedited : Relation.EqvGen Edit (lines content.toList) (lines content'.toList) := by
    have hlines : lines content.toList = ["ID=debian".toList, "NAME=Box".toList, "ID=ubuntu".toList] := by
      decide +kernel
    have hlines' : lines content'.toList = ["ID=ubuntu".toList, "NAME=Box".toList] := by decide +kernel
    rw [hlines, hlines']
    refine .trans _ _ _ (.rel _ _ (.drop [] (.superseded hdebian (by simp) hubuntu))) ?_
    refine .rel _ _ (.swap [] [] fun key v w h h' => ?_)
    have hkey := (h.unique hname).symm.trans (h'.unique hubuntu)
    exact absurd hkey (by decide)
  have hframes : Frames "" "\nNAME=Box\n" := ⟨by simp, by simp⟩
  have hfits : Fits "ID" "" "" := ⟨by decide, by simp, by simp⟩
  have hplain : Plain "ubuntu" := ⟨by decide, by decide, by simp, by simp⟩
  have hid : Gives content' "ID" "ubuntu" := value?_eq_some_iff.mp (by decide +kernel)
  have hlike : ∀ text, ¬ Gives content' "ID_LIKE" text := value?_eq_none_iff.mp (by decide +kernel)
  have hversion : ∀ text, ¬ Gives content' "VERSION_ID" text := value?_eq_none_iff.mp (by decide +kernel)
  obtain ⟨hfamily, -, hno⟩ := hparts content'
  refine ⟨hgives, hedited, hedits content content' hedited,
    hquotes "" "ID" "" "ubuntu" "" "\nNAME=Box\n" hframes hfits hplain .double .bare, ?_, ?_⟩
  · exact hfamily "ubuntu" "" (.inl hid) (.inr ⟨hlike, rfl⟩)
  · exact hno fun text htext => absurd htext (hversion text)

end HostProbe.Os.Release
