import HostProbe.Proofs.Text.Pieces
import HostProbe.Proofs.Yaml.Key
import HostProbe.Yaml.Merge

/-! What is written on a page stays there, and every value but a text leaves a mark that is no blank. So
a key that can be written has a text to be shown by, unless it is the empty text. -/

namespace HostProbe

open Text

namespace Text

def Inked (s : List Char) : Prop := ∃ c ∈ s, isBlank c = false

variable {s t : List Char}

lemma Inked.mono (h : Inked s) (hst : s ⊆ t) : Inked t := by
  obtain ⟨c, hc, hblank⟩ := h
  exact ⟨c, hst hc, hblank⟩

lemma inked_of_mem {c : Char} (hc : c ∈ s) (hblank : isBlank c = false) : Inked s := ⟨c, hc, hblank⟩

lemma Inked.trim_ne_nil (h : Inked s) : trim s ≠ [] := by
  obtain ⟨c, hc, hblank⟩ := h
  have hdrop : c ∈ s.dropWhile isBlank := by
    rw [← List.takeWhile_append_dropWhile (p := isBlank) (l := s)] at hc
    rcases List.mem_append.mp hc with hc | hc
    · rw [List.mem_takeWhile_imp hc] at hblank
      cases hblank
    · exact hc
  intro hnil
  have hall : ∀ d ∈ s.dropWhile isBlank, isBlank d = true := List.rdropWhile_eq_nil_iff.mp hnil
  rw [hall c hdrop] at hblank
  cases hblank

end Text

namespace Decimal

lemma inked_positional (digits : String) (point : Int) : Inked (positional digits point).toList := by
  refine inked_of_mem (c := '.') ?_ rfl
  rw [positional]
  split_ifs <;> simp

lemma inked_scientific (digits : String) (point : Int) : Inked (scientific digits point).toList :=
  inked_of_mem (c := 'e') (by simp [scientific]) rfl

lemma inked_natText (n : Nat) : Inked (toString n).toList := by
  obtain ⟨c, hc⟩ := List.exists_mem_of_ne_nil (Nat.toDigits 10 n) Nat.toDigits_ne_nil
  have hdigit := isAsciiDigit_iff.mp (isAsciiDigit_of_mem_toDigits hc)
  rw [Nat.toString_eq_ofList_toDigits, String.toList_ofList]
  exact inked_of_mem hc (isBlank_of_range (by omega) (by omega))

lemma inked_intText (n : Int) : Inked (toString n).toList := by
  cases n with
  | ofNat n => exact inked_natText n
  | negSucc n =>
    have htext : toString (Int.negSucc n) = "-" ++ toString (n + 1) := rfl
    rw [htext, String.toList_append]
    exact (inked_natText (n + 1)).mono (List.subset_append_right _ _)

lemma inked_shortestText (x : Float) : Inked (shortestText x).toList := by
  have hbehind (front : String) {s : String} (h : Inked s.toList) : Inked (front ++ s).toList := by
    rw [String.toList_append]
    exact h.mono (List.subset_append_right _ _)
  simp only [shortestText]
  split
  · exact hbehind _ (inked_of_mem (c := '0') (by simp) rfl)
  · refine hbehind _ ?_
    split
    · exact inked_positional _ _
    · exact inked_scientific _ _

end Decimal

namespace Yaml

open Decimal

namespace Page

variable {p q r : Page} {c : Char} {s : String} {column : Nat} {spaced bare : Bool}

def StaysOn (p q : Page) : Prop := p.text.toList ⊆ q.text.toList

lemma StaysOn.refl (p : Page) : p.StaysOn p := List.Subset.refl _

lemma StaysOn.trans (hpq : p.StaysOn q) (hqr : q.StaysOn r) : p.StaysOn r := List.Subset.trans hpq hqr

lemma StaysOn.with (h : p.StaysOn q) : p.StaysOn ⟨q.text, column, spaced, bare⟩ := h

lemma StaysOn.inked (hpq : p.StaysOn q) (h : Inked p.text.toList) : Inked q.text.toList := h.mono hpq

lemma toList_put (p : Page) (c : Char) : (p.put c).text.toList = p.text.toList ++ [c] := by simp [put]

lemma toList_puts (p : Page) (s : String) : (p.puts s).text.toList = p.text.toList ++ s.toList := by
  rw [puts]
  induction s.toList generalizing p with
  | nil => exact (List.append_nil _).symm
  | cons c rest ih => rw [List.foldl_cons, ih, toList_put, List.append_assoc, List.singleton_append]

lemma staysOn_put (p : Page) (c : Char) : p.StaysOn (p.put c) := by
  rw [StaysOn, toList_put]
  exact List.subset_append_left _ _

lemma staysOn_puts (p : Page) (s : String) : p.StaysOn (p.puts s) := by
  rw [StaysOn, toList_puts]
  exact List.subset_append_left _ _

lemma staysOn_mark (p : Page) (s : String) : p.StaysOn (p.mark s) := (p.staysOn_puts s).with

lemma staysOn_space (p : Page) : p.StaysOn p.space := by
  rw [space]
  split
  · exact .refl p
  · exact p.staysOn_put _

lemma staysOn_lineBreak (p : Page) (c : Char) : p.StaysOn (p.lineBreak c) := (p.staysOn_put c).with

lemma staysOn_blockMark (p : Page) (s : String) : p.StaysOn (p.blockMark s) :=
  (p.staysOn_space.trans (p.space.staysOn_puts s)).with

lemma staysOn_startAt (p : Page) (column : Nat) : p.StaysOn (p.startAt column) := by
  rw [startAt]
  refine StaysOn.with (.trans ?_ (staysOn_puts _ _))
  split
  · exact p.staysOn_lineBreak _
  · exact .refl p

lemma staysOn_lines (p : Page) (column : Nat) (broken : Bool) (cs : List Char) :
    p.StaysOn (p.lines column broken cs).1 := by
  induction cs generalizing p broken with
  | nil => exact .refl p
  | cons c rest ih =>
    rw [lines]
    split
    · exact (p.staysOn_lineBreak c).with.trans (ih _ _)
    · refine .trans (.with (.trans ?_ (staysOn_put _ c))) (ih _ _)
      split
      · exact p.staysOn_startAt column
      · exact .refl p

lemma staysOn_writeText (p : Page) (column : Nat) (s : String) : p.StaysOn (p.writeText column s) := by
  have hmark (t : String) : p.StaysOn (p.space.mark t) := p.staysOn_space.trans (staysOn_mark _ t)
  rw [writeText]
  split
  · exact (p.staysOn_space.trans (staysOn_puts _ s)).with
  · refine StaysOn.trans ?_ (staysOn_mark _ _)
    split
    · exact ((hmark _).trans (staysOn_lines _ _ _ _)).trans (staysOn_startAt _ _)
    · exact (hmark _).trans (staysOn_lines _ _ _ _)
  · exact (hmark _).trans ((staysOn_puts _ _).trans (staysOn_mark _ _))
  · exact .trans ((hmark _).trans (staysOn_lineBreak _ _)).with (staysOn_lines _ _ _ _)

end Page

open Page

section Write

variable {place : Place} {page : Page} {v key : Value} {column : Nat} {vs : List Value} {es : Entries}

lemma staysOn_writeItems (h : ∀ v ∈ vs, ∀ place page, StaysOn page (write place page v)) (page : Page) :
    page.StaysOn (writeItems column page vs) := by
  induction vs generalizing page with
  | nil => exact .refl page
  | cons v vs ih =>
    obtain ⟨hv, hvs⟩ := List.forall_mem_cons.mp h
    rw [writeItems]
    exact ((page.staysOn_startAt column).trans (staysOn_blockMark _ _)).trans
      ((hv _ _).trans (ih hvs _))

lemma exists_marked_key (column : Nat) (page : Page) (key : Value)
    (hkey : ∀ place page, StaysOn page (write place page key)) :
    ∃ marked : Page, page.StaysOn marked ∧ Inked marked.text.toList ∧ ∀ v es,
      writeEntries column page ((key, v) :: es) =
        writeEntries column (write ⟨some column, true⟩ marked v) es := by
  have hstart := page.staysOn_startAt column
  by_cases hsimple : isSimpleKey key
  · let written := write ⟨some column, true⟩ (page.startAt column) key
    have hwritten : page.StaysOn written := hstart.trans (hkey _ _)
    refine ⟨written.mark ":", hwritten.trans (staysOn_mark _ _), ?_, fun v es => ?_⟩
    · refine inked_of_mem (c := ':') ?_ rfl
      rw [mark, word, toList_puts]
      simp
    · rw [writeEntries, if_pos hsimple]
  · let written := write ⟨some column, true⟩ ((page.startAt column).blockMark "?") key
    have hwritten : page.StaysOn written := (hstart.trans (staysOn_blockMark _ _)).trans (hkey _ _)
    have hmarked : page.StaysOn ((written.startAt column).blockMark ":") :=
      (hwritten.trans (staysOn_startAt _ _)).trans (staysOn_blockMark _ _)
    refine ⟨_, hmarked, ?_, fun v es => ?_⟩
    · refine inked_of_mem (c := ':') ?_ rfl
      rw [blockMark, toList_puts]
      simp
    · rw [writeEntries, if_neg hsimple]

lemma staysOn_writeEntries (h : ∀ e ∈ es, (∀ place page, StaysOn page (write place page e.1)) ∧
    ∀ place page, StaysOn page (write place page e.2)) (page : Page) :
    page.StaysOn (writeEntries column page es) := by
  induction es generalizing page with
  | nil => exact .refl page
  | cons e es ih =>
    obtain ⟨⟨hkey, hvalue⟩, hes⟩ := List.forall_mem_cons.mp h
    obtain ⟨marked, hmarked, -, hwrite⟩ := exists_marked_key column page e.1 hkey
    rw [hwrite]
    exact hmarked.trans ((hvalue _ _).trans (ih hes _))

lemma staysOn_write (v : Value) (place : Place) (page : Page) : page.StaysOn (write place page v) := by
  have hmark (p : Page) (s : String) : p.StaysOn (p.space.mark s) := p.staysOn_space.trans (staysOn_mark _ s)
  induction v using Value.parts_induction generalizing place page with
  | h v ih =>
    cases v with
    | text s => exact page.staysOn_writeText _ s
    | tagged name v => exact (hmark _ _).trans (ih v List.mem_cons_self _ _)
    | list items =>
      cases items with
      | nil => exact hmark _ _
      | cons v vs => exact staysOn_writeItems (fun w hw => ih w hw) page
    | mapping entries =>
      cases entries with
      | nil => exact hmark _ _
      | cons e es =>
        refine staysOn_writeEntries (fun f hf => ?_) page
        exact ⟨ih f.1 (Value.key_mem_parts hf), ih f.2 (Value.value_mem_parts hf)⟩
    | null | bool | int | float => exact hmark _ _

lemma inked_floatText (bits : UInt64) : Inked (floatText bits).toList := by
  rw [floatText]
  split_ifs
  · exact inked_of_mem (c := '.') (by simp) rfl
  · exact inked_of_mem (c := '.') (by simp) rfl
  · exact inked_of_mem (c := '.') (by simp) rfl
  · exact inked_shortestText _

lemma inked_plainText {s : String} (h : plainText? v = some s) : Inked s.toList := by
  cases v with
  | null =>
    cases h
    exact inked_of_mem (c := 'n') (by simp) rfl
  | bool b =>
    cases h
    exact inked_of_mem (c := 'e') (by cases b <;> simp) rfl
  | int n =>
    cases h
    exact inked_intText n
  | float bits =>
    cases h
    exact inked_floatText bits
  | _ => cases h

lemma inked_tagText (name : String) : Inked (tagText name).toList := by
  refine inked_of_mem (c := '!') ?_ rfl
  rw [tagText]
  split <;> simp

lemma inked_write (h : ∀ s, v ≠ .text s) (place : Place) (page : Page) :
    Inked (write place page v).text.toList := by
  have hmark {s : String} (hs : Inked s.toList) : Inked (page.space.mark s).text.toList := by
    rw [mark, word, toList_puts]
    exact hs.mono (List.subset_append_right _ _)
  cases v with
  | text s => exact absurd rfl (h s)
  | tagged name v =>
    rw [write]
    exact (staysOn_write v _ _).inked (hmark (inked_tagText name))
  | list items =>
    cases items with
    | nil => exact hmark (inked_of_mem (c := '[') (by simp [plainText?, emptyMarks?]) rfl)
    | cons v vs =>
      rw [write, writeItems]
      refine (staysOn_writeItems (fun w _ => staysOn_write w) _).inked ((staysOn_write v _ _).inked ?_)
      refine inked_of_mem (c := '-') ?_ rfl
      rw [blockMark, toList_puts]
      simp
  | mapping entries =>
    cases entries with
    | nil => exact hmark (inked_of_mem (c := '\x7b') (by simp [plainText?, emptyMarks?]) rfl)
    | cons e es =>
      obtain ⟨marked, -, hmarked, hwrite⟩ :=
        exists_marked_key place.entryColumn page e.1 (staysOn_write e.1)
      rw [write, hwrite]
      refine (staysOn_writeEntries (fun f _ => ?_) _).inked ((staysOn_write e.2 _ _).inked hmarked)
      exact ⟨staysOn_write f.1, staysOn_write f.2⟩
  | null => exact hmark (inked_plainText (v := .null) rfl)
  | bool b => exact hmark (inked_plainText (v := .bool b) rfl)
  | int n => exact hmark (inked_plainText (v := .int n) rfl)
  | float bits => exact hmark (inked_plainText (v := .float bits) rfl)

lemma keyText_eq_empty_iff : keyText key = "" ↔ key = .text "" ∨ key.hasText = false := by
  by_cases htext : ∃ s, key = .text s
  · obtain ⟨s, rfl⟩ := htext
    simp [keyText, Value.hasText]
  · have hne : ∀ s, key ≠ .text s := not_exists.mp htext
    have hkeyText : keyText key = trimmed (key.print?.getD "") := by
      rw [keyText]
      exact fun s => hne s
    rw [hkeyText, Value.print?]
    cases hwritable : key.hasText with
    | false => simp [trimmed, trim, trimBy, dropRightWhile]
    | true =>
      have htrim := (inked_write hne ⟨none, false⟩ .blank).trim_ne_nil
      simp [trimmed, htrim, hne]

end Write

end Yaml

end HostProbe
