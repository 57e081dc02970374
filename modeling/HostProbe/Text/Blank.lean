import HostProbe.Text.CharSet

/-! # Blanks, words and lines

Blanks are the characters with the White_Space property. Trimming drops them from both ends of a
text, words are what stands between them, and lines are cut at line feeds. -/

namespace HostProbe.Text

def blanks : CharSet :=
  [(0x9, 0xD), (0x20, 0x20), (0x85, 0x85), (0xA0, 0xA0), (0x1680, 0x1680), (0x2000, 0x200A),
   (0x2028, 0x2029), (0x202F, 0x202F), (0x205F, 0x205F), (0x3000, 0x3000)]

def isBlank (c : Char) : Bool := blanks.contains c

def dropRightWhile (p : Char → Bool) (s : List Char) : List Char := (s.reverse.dropWhile p).reverse

def trimBy (p : Char → Bool) (s : List Char) : List Char := dropRightWhile p (s.dropWhile p)

def trim (s : List Char) : List Char := trimBy isBlank s

def splitBy (p : Char → Bool) : List Char → List (List Char)
  | [] => [[]]
  | c :: cs =>
    if p c then [] :: splitBy p cs
    else match splitBy p cs with
      | [] => [[c]]
      | w :: ws => (c :: w) :: ws

def splitAt (sep : Char) (s : List Char) : List (List Char) := splitBy (· == sep) s

def words (s : List Char) : List (List Char) := (splitBy isBlank s).filter (!·.isEmpty)

def dropCarriageReturn (s : List Char) : List Char :=
  if s.getLast? = some '\r' then s.dropLast else s

def endedLines : List (List Char) → List (List Char)
  | [] => []
  | [last] => if last.isEmpty then [] else [last]
  | l :: ls => dropCarriageReturn l :: endedLines ls

/-- The lines of a text: each ends at a line feed or at the end of the text, and a carriage return
before the line feed is no part of it. -/
def lines (s : List Char) : List (List Char) := endedLines (splitAt '\n' s)

def dropStart? (pre s : List Char) : Option (List Char) :=
  match pre, s with
  | [], s => some s
  | _ :: _, [] => none
  | p :: pre, c :: s => if p = c then dropStart? pre s else none

def occursIn (part : List Char) : List Char → Bool
  | [] => part.isEmpty
  | c :: cs => part.isPrefixOf (c :: cs) || occursIn part cs

def splitOnce? (sep : List Char) : List Char → Option (List Char × List Char)
  | [] => if sep.isEmpty then some ([], []) else none
  | c :: cs =>
    match dropStart? sep (c :: cs) with
    | some rest => some ([], rest)
    | none => (splitOnce? sep cs).map fun (a, b) => (c :: a, b)

def trimmed (s : String) : String := String.ofList (trim s.toList)

def wordsOf (s : String) : List String := (words s.toList).map String.ofList

def linesOf (s : String) : List String := (lines s.toList).map String.ofList

def mentions (s part : String) : Bool := occursIn part.toList s.toList

def startsWith (s pre : String) : Bool := pre.toList.isPrefixOf s.toList

def joinWith (sep : String) (parts : List String) : String := String.intercalate sep parts

end HostProbe.Text
