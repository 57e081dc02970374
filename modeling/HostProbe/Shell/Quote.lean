import HostProbe.Fault
import HostProbe.Text.Quoted

/-! # Quoting an argument for a shell

An argument is cut into chunks from the left. A chunk is as long as one way of quoting fits all its
characters; of the ways that fit, the plainest is taken. No shell can be given a NUL. -/

namespace HostProbe.Shell

open HostProbe.Text

structure Styles where
  bare : Bool
  single : Bool
  double : Bool
  deriving DecidableEq, Repr

def isBareChar (c : Char) : Bool :=
  c.isAlphanum || c == '+' || c == '-' || c == '.' || c == '/' || c == ':' || c == '@' ||
    c == ']' || c == '_'

def isSingleChar (c : Char) : Bool := c != '\x27' && c != '\\' && c != '^'

def isDoubleChar (c : Char) : Bool := c != '\x60' && c != '$' && c != '!' && c != '^'

namespace Styles

def isOpen (s : Styles) : Bool := s.bare || s.single || s.double

def narrow (s : Styles) (c : Char) : Styles :=
  ⟨s.bare && isBareChar c, s.single && isSingleChar c, s.double && isDoubleChar c⟩

/-- The ways that are open for the first character of a chunk; a caret there only stands inside
single quotes. -/
def first (c : Char) : Styles :=
  if c = '^' then ⟨false, true, false⟩ else narrow ⟨true, true, true⟩ c

end Styles

def chunk (styles : Styles) : List Char → List Char × Styles × List Char
  | [] => ([], styles, [])
  | c :: s =>
    if (styles.narrow c).isOpen then
      let (front, final, rest) := chunk (styles.narrow c) s
      (c :: front, final, rest)
    else ([], styles, c :: s)

def escapeDouble (c : Char) : List Char :=
  if c = '$' ∨ c = '\x60' ∨ c = '"' ∨ c = '\\' then ['\\', c] else [c]

def writeChunk (styles : Styles) (s : List Char) : List Char :=
  if styles.bare then s
  else if styles.single then ['\x27'] ++ s ++ ['\x27']
  else ['"'] ++ s.flatMap escapeDouble ++ ['"']

theorem length_chunk_rest (styles : Styles) (s : List Char) :
    (chunk styles s).2.2.length ≤ s.length := by
  induction s generalizing styles with
  | nil => simp [chunk]
  | cons c s ih =>
    by_cases h : (styles.narrow c).isOpen
    · simpa [chunk, h] using Nat.le_succ_of_le (ih (styles.narrow c))
    · simp [chunk, h]

def writeChunks : List Char → List Char
  | [] => []
  | c :: s =>
    let piece := chunk (Styles.first c) s
    writeChunk piece.2.1 (c :: piece.1) ++ writeChunks piece.2.2
termination_by s => s.length
decreasing_by
  have := length_chunk_rest (Styles.first c) s
  rw [List.length_cons]
  omega

def quote? (s : List Char) : Option (List Char) :=
  if s = [] then some ['\x27', '\x27']
  else if '\x00' ∈ s then none
  else some (writeChunks s)

def quote (value : String) : Except Fault String :=
  match quote? value.toList with
  | some s => .ok (String.ofList s)
  | none => .error (.invalidArgument ("`" ++ bare value ++ "` cannot be passed to a shell"))

def quoteAll (values : List String) : Except Fault String :=
  (values.mapM quote).map (String.intercalate " ")

end HostProbe.Shell
