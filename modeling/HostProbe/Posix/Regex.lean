import HostProbe.Posix.Pattern

/-! # Regular expressions

An expression stands for a set of texts. It is written in one of two dialects, which differ in what
a backslash does to the marks of the language. Of the places where an expression fits the first one
counts, and there the longest text. -/

namespace HostProbe.Posix

inductive TextEdge where
  | start
  | stop
  | wordStart
  | wordStop
  | wordEdge
  | noWordEdge
  deriving DecidableEq, Repr

inductive Regex where
  | empty
  | one (item : PatternItem)
  | edge (e : TextEdge)
  | sequence (a b : Regex)
  | either (a b : Regex)
  | repeated (a : Regex) (least : Nat) (most : Option Nat)
  | group (number : Nat) (a : Regex)
  | again (number : Nat)
  deriving Repr, Inhabited

namespace Regex

structure Way where
  passed : List Char
  rest : List Char
  groups : List (Nat × List Char) := []

namespace Way

def isWordChar (c : Char) : Bool := c == '_' || c.isAlphanum

def isAt (w : Way) (e : TextEdge) : Bool :=
  let before := w.passed.head?.any isWordChar
  let after := w.rest.head?.any isWordChar
  match e with
  | .start => w.passed.isEmpty
  | .stop => w.rest.isEmpty
  | .wordStart => !before && after
  | .wordStop => before && !after
  | .wordEdge => before != after
  | .noWordEdge => before == after

def forward (w : Way) (n : Nat) : Way :=
  { w with passed := (w.rest.take n).reverse ++ w.passed, rest := w.rest.drop n }

def distinct (ws : List Way) : List Way :=
  (ws.foldl (fun (kept : List Way) w =>
    if kept.any (·.rest.length = w.rest.length) then kept else w :: kept) []).reverse

end Way

def stepsOf (step : Way → List Way) : Nat → List Way → List Way
  | 0, ws => ws
  | n + 1, ws => stepsOf step n (Way.distinct (ws.flatMap step))

def closure (step : Way → List Way) : Nat → List Way → List Way → List Way
  | 0, _, reached => reached
  | n + 1, ws, reached =>
    let new := (Way.distinct (ws.flatMap step)).filter fun w =>
      !reached.any (·.rest.length = w.rest.length)
    if new.isEmpty then reached else closure step n new (reached ++ new)

def ways (ignoreCase : Bool) : Regex → Way → List Way
  | .empty, w => [w]
  | .one item, w =>
    match w.rest with
    | c :: _ =>
      if item.accepts c || (ignoreCase && (item.accepts c.toLower || item.accepts c.toUpper)) then
        [w.forward 1] else []
    | [] => []
  | .edge e, w => if w.isAt e then [w] else []
  | .sequence a b, w => Way.distinct ((ways ignoreCase a w).flatMap (ways ignoreCase b))
  | .either a b, w => Way.distinct (ways ignoreCase a w ++ ways ignoreCase b w)
  | .repeated a least most, w =>
    let start := stepsOf (ways ignoreCase a) least [w]
    closure (ways ignoreCase a) ((most.map (· - least)).getD (w.rest.length + 1)) start start
  | .group number a, w => (ways ignoreCase a w).map fun v =>
    let text := w.rest.take (w.rest.length - v.rest.length)
    { v with groups := (number, text) :: v.groups.filter (·.1 ≠ number) }
  | .again number, w =>
    let text := (w.groups.lookup number).getD []
    if text.isPrefixOf w.rest then [w.forward text.length] else []

structure Fit where
  before : List Char
  text : List Char
  after : List Char
  groups : List (Nat × List Char)

def longest (ws : List Way) : Option Way :=
  ws.foldl (fun (best : Option Way) w => match best with
    | none => some w
    | some b => if w.rest.length < b.rest.length then some w else some b) none

def find? (r : Regex) (ignoreCase : Bool) (accepts : Fit → Bool) :
    (passed : List Char) → List Char → Option Fit
  | passed, s =>
    let fits := (r.ways ignoreCase ⟨passed, s, []⟩).filter fun w => accepts (fitOf passed s w)
    match longest fits with
    | some w => some (fitOf passed s w)
    | none => match s with
      | [] => none
      | c :: t => find? r ignoreCase accepts (c :: passed) t
termination_by _ s => s.length
where
  fitOf (passed s : List Char) (w : Way) : Fit :=
    ⟨passed.reverse, s.take (s.length - w.rest.length), w.rest, w.groups⟩

inductive Mark where
  | atom (r : Regex)
  | letter (c : Char)
  | star
  | count (least : Nat) (most : Option Nat)
  | opening
  | closing
  | bar
  | caret
  | dollar

inductive Dialect where
  | basic
  | extended
  deriving DecidableEq, Repr

def counts? (dialect : Dialect) (s : List Char) : Option (Mark × List Char) :=
  let a := s.takeWhile Char.isDigit
  let t := s.drop a.length
  let (b, t) := match t with
    | ',' :: t => (some (t.takeWhile Char.isDigit), t.dropWhile Char.isDigit)
    | t => (none, t)
  let rest? := match dialect, t with
    | .basic, '\\' :: '}' :: rest => some rest
    | .extended, '}' :: rest => some rest
    | _, _ => none
  rest?.bind fun rest =>
    if a = [] ∧ (b = none ∨ b = some []) ∧ b.isNone then none
    else
      let least := digitsValue 10 a
      some (.count least (match b with
        | none => some least
        | some [] => none
        | some ds => some (digitsValue 10 ds)), rest)

def classOf (negated : Bool) (names : List String) : Regex :=
  .one (.oneOf negated (names.map fun n => if n = "_" then .range '_' '_' else .named n.toList))

def bracket? (s : List Char) : Option (Regex × List Char) :=
  let (negated, t) := match s with
    | '^' :: t => (true, t)
    | t => (false, t)
  (Pattern.setItems? (t.length + 1) true (t.map fun c => (c, false))).map fun (items, rest) =>
    (.one (.oneOf negated items), rest.map (·.1))

def marks (dialect : Dialect) : Nat → List Char → Except String (List Mark)
  | 0, _ => .ok []
  | _ + 1, [] => .ok []
  | n + 1, '\\' :: c :: s =>
    let more (m : Mark) : Except String (List Mark) := (marks dialect n s).map (m :: ·)
    let isMark := dialect = .basic
    match c with
    | '(' => more (if isMark then .opening else .letter c)
    | ')' => more (if isMark then .closing else .letter c)
    | '|' => more (if isMark then .bar else .letter c)
    | '+' => more (if isMark then .count 1 none else .letter c)
    | '?' => more (if isMark then .count 0 (some 1) else .letter c)
    | '{' =>
      if isMark then match counts? dialect s with
        | some (m, rest) => (marks dialect n rest).map (m :: ·)
        | none => .error "Unmatched \\\x7b"
      else more (.letter c)
    | 'w' => more (.atom (classOf false ["alnum", "_"]))
    | 'W' => more (.atom (classOf true ["alnum", "_"]))
    | 's' => more (.atom (classOf false ["space"]))
    | 'S' => more (.atom (classOf true ["space"]))
    | 'b' => more (.atom (.edge .wordEdge))
    | 'B' => more (.atom (.edge .noWordEdge))
    | '<' => more (.atom (.edge .wordStart))
    | '>' => more (.atom (.edge .wordStop))
    | c => more (if c.isDigit ∧ c ≠ '0' then .atom (.again (c.toNat - 48)) else .letter c)
  | _ + 1, ['\\'] => .error "Trailing backslash"
  | n + 1, c :: s =>
    let more (m : Mark) : Except String (List Mark) := (marks dialect n s).map (m :: ·)
    let isMark := dialect = .extended
    match c with
    | '.' => more (.atom (.one .anyOne))
    | '*' => more .star
    | '^' => more .caret
    | '$' => more .dollar
    | '[' => match bracket? s with
      | some (r, rest) => (marks dialect n rest).map (.atom r :: ·)
      | none => .error "Unmatched [, [^, [:, [., or [="
    | '(' => more (if isMark then .opening else .letter c)
    | ')' => more (if isMark then .closing else .letter c)
    | '|' => more (if isMark then .bar else .letter c)
    | '+' => more (if isMark then .count 1 none else .letter c)
    | '?' => more (if isMark then .count 0 (some 1) else .letter c)
    | '{' =>
      if isMark then match counts? dialect s with
        | some (m, rest) => (marks dialect n rest).map (m :: ·)
        | none => more (.letter c)
      else more (.letter c)
    | c => more (.letter c)

/-- A part between brackets that is being read: the alternatives before, the latest first, the items
of the last one, the latest first, and the number of the group. -/
structure Frame where
  alternatives : List Regex := []
  items : List Regex := []
  number : Nat := 0

namespace Frame

def sequence (f : Frame) : Regex := match f.items with
  | [] => .empty
  | r :: rs => rs.foldl (fun r s => .sequence s r) r

def whole (f : Frame) : Regex := f.alternatives.foldl (fun r a => .either a r) f.sequence

def put (f : Frame) (r : Regex) : Frame := { f with items := r :: f.items }

end Frame

structure Reading where
  top : Frame := {}
  outer : List Frame := []
  groups : Nat := 0

namespace Reading

def step (dialect : Dialect) (r : Reading) (m : Mark) (next : Option Mark) :
    Except String Reading :=
  let put (x : Regex) : Except String Reading := .ok { r with top := r.top.put x }
  let letter (c : Char) : Except String Reading := put (.one (.exact c))
  let again (least : Nat) (most : Option Nat) (otherwise : Char) : Except String Reading :=
    match r.top.items with
    | .edge .start :: _ => if dialect = .basic then letter otherwise else .ok r
    | a :: rest => .ok { r with top := { r.top with items := .repeated a least most :: rest } }
    | [] => letter otherwise
  match m with
  | .atom x => put x
  | .letter c => letter c
  | .star => again 0 none '*'
  | .count least most =>
    if most.any (· < least) then .error "Invalid content of \\\x7b\\\x7d"
    else if r.top.items.isEmpty ∧ dialect = .basic then .error "Invalid preceding regular expression"
    else again least most (if least = 1 then '+' else '?')
  | .opening => .ok ⟨{ number := r.groups + 1 }, r.top :: r.outer, r.groups + 1⟩
  | .closing => match r.outer with
    | f :: outer => .ok { r with top := f.put (.group r.top.number r.top.whole), outer }
    | [] => .error "Unmatched ) or \\)"
  | .bar => .ok { r with
      top := { r.top with alternatives := r.top.sequence :: r.top.alternatives, items := [] } }
  | .caret => if dialect = .extended || r.top.items.isEmpty then put (.edge .start) else letter '^'
  | .dollar =>
    let isLast := match next with
      | none => true
      | some .closing => true
      | some .bar => true
      | _ => false
    if dialect = .extended || isLast then put (.edge .stop) else letter '$'

def all (dialect : Dialect) : Reading → List Mark → Except String Reading
  | r, [] => .ok r
  | r, m :: ms => (r.step dialect m ms.head?).bind fun r => all dialect r ms

end Reading

def ofText (dialect : Dialect) (s : List Char) : Except String Regex := do
  let r ← Reading.all dialect {} (← marks dialect (s.length + 1) s)
  if r.outer.isEmpty then return r.top.whole else throw "Unmatched ( or \\("

def ofLiteral (s : List Char) : Regex :=
  s.foldr (fun c r => .sequence (.one (.exact c)) r) .empty

end Regex

end HostProbe.Posix
