import HostProbe.Posix.Bytes

/-! # Patterns of the shell language

In a pattern some characters stand for others: a question mark for any one, an asterisk for any
text, and brackets for one of a set. Quoted characters stand for themselves. -/

namespace HostProbe.Posix

inductive SetItem where
  | range (first last : Char)
  | named (name : List Char)
  deriving DecidableEq, Repr

inductive PatternItem where
  | exact (c : Char)
  | anyOne
  | anyText
  | oneOf (negated : Bool) (items : List SetItem)
  deriving DecidableEq, Repr

abbrev Pattern := List PatternItem

def inNamedSet (name : List Char) (c : Char) : Bool :=
  match String.ofList name with
  | "alnum" => c.isAlphanum
  | "alpha" => c.isAlpha
  | "blank" => c == ' ' || c == '\t'
  | "cntrl" => c.toNat < 32 || c.toNat == 127
  | "digit" => c.isDigit
  | "graph" => 32 < c.toNat && c.toNat < 127
  | "lower" => c.isLower
  | "print" => 32 ≤ c.toNat && c.toNat < 127
  | "punct" => 32 < c.toNat && c.toNat < 127 && !c.isAlphanum
  | "space" => c == ' ' || (9 ≤ c.toNat && c.toNat ≤ 13)
  | "upper" => c.isUpper
  | "xdigit" => isHex c
  | _ => false

namespace SetItem

def holds (i : SetItem) (c : Char) : Bool :=
  match i with
  | .range first last => first ≤ c && c ≤ last
  | .named name => inNamedSet name c

end SetItem

namespace PatternItem

def accepts (i : PatternItem) (c : Char) : Bool :=
  match i with
  | .exact d => c == d
  | .anyOne => true
  | .anyText => true
  | .oneOf negated items => items.any (·.holds c) != negated

end PatternItem

namespace Pattern

abbrev Letter := Char × Bool

def className? (s : List Letter) : Option (List Char × List Letter) :=
  let name := s.takeWhile fun l => l.1.isAlpha
  match s.drop name.length with
  | (':', false) :: (']', false) :: rest => some (name.map (·.1), rest)
  | _ => none

def setItems? : Nat → (first : Bool) → List Letter → Option (List SetItem × List Letter)
  | 0, _, _ => none
  | _ + 1, _, [] => none
  | n + 1, first, l :: s =>
    if l = (']', false) ∧ !first then some ([], s)
    else
      let named := match l, s with
        | ('[', false), (':', false) :: rest => className? rest
        | _, _ => none
      match named with
      | some (name, s) => (setItems? n false s).map fun (is, s) => (.named name :: is, s)
      | none => match s with
        | ('-', false) :: (d, quoted) :: rest =>
          if d == ']' && !quoted then
            (setItems? n false s).map fun (is, s) => (.range l.1 l.1 :: is, s)
          else (setItems? n false rest).map fun (is, s) => (.range l.1 d :: is, s)
        | s => (setItems? n false s).map fun (is, s) => (.range l.1 l.1 :: is, s)

def ofLetters : Nat → List Letter → Pattern
  | 0, _ => []
  | _ + 1, [] => []
  | n + 1, ('*', false) :: s => .anyText :: ofLetters n s
  | n + 1, ('?', false) :: s => .anyOne :: ofLetters n s
  | n + 1, ('\\', false) :: (c, _) :: s => .exact c :: ofLetters n s
  | n + 1, ('[', false) :: s =>
    let (negated, t) := match s with
      | ('!', false) :: t => (true, t)
      | t => (false, t)
    match setItems? (t.length + 1) true t with
    | some (items, rest) => .oneOf negated items :: ofLetters n rest
    | none => .exact '[' :: ofLetters n s
  | n + 1, (c, _) :: s => .exact c :: ofLetters n s

def isActive (p : Pattern) : Bool :=
  p.any fun
    | .exact _ => false
    | _ => true

mutual

def isMatch : Pattern → List Char → Bool
  | [], s => s.isEmpty
  | .anyText :: p, s => matchesEnd p s
  | i :: p, c :: s => i.accepts c && isMatch p s
  | _ :: _, [] => false
termination_by p s => (p.length, s.length)

def matchesEnd (p : Pattern) : List Char → Bool
  | [] => isMatch p []
  | c :: s => isMatch p (c :: s) || matchesEnd p s
termination_by s => (p.length, s.length + 1)

end

def cuts (s : List Char) : List (List Char × List Char) :=
  (List.range (s.length + 1)).map fun k => (s.take k, s.drop k)

def trim (atEnd longest : Bool) (p : Pattern) (s : List Char) : List Char :=
  let found := if atEnd then
      (cuts s).filterMap fun (a, b) => if p.isMatch b then some a else none
    else ((cuts s).filterMap fun (a, b) => if p.isMatch a then some b else none).reverse
  ((if longest then found.head? else found.getLast?).getD s)

end Pattern

end HostProbe.Posix
