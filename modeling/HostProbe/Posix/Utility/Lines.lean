import HostProbe.Posix.Utility.Basic
import HostProbe.Posix.Utility.Contents

/-! # Utilities that count and order lines

Counting what a text holds, putting lines in order, and leaving out lines that repeat. -/

namespace HostProbe.Posix

open Effect

structure TextCount where
  lines : Nat := 0
  words : Nat := 0
  bytes : Nat := 0
  longest : Nat := 0

namespace TextCount

def columns (line : List Char) : Nat :=
  (line.foldl (fun (best, n) c =>
    let n := if c = '\t' then n + 8 - n % 8 else if c = '\r' || c = '\x0c' then 0
      else if 32 ≤ c.toNat && c.toNat < 127 then n + 1 else n
    (max best n, n)) (0, 0)).1

def ofText (s : List Char) : TextCount :=
  { lines := s.count '\n', words := (wordsIn s).length, bytes := s.length
    longest := ((bareLines s).map columns).foldl max 0 }

def add (a b : TextCount) : TextCount :=
  ⟨a.lines + b.lines, a.words + b.words, a.bytes + b.bytes, max a.longest b.longest⟩

def chosen (letters : List Char) (a : TextCount) : List Nat :=
  let letters := if letters.isEmpty then ['l', 'w', 'c'] else letters
  [('l', a.lines), ('w', a.words), ('m', a.bytes), ('c', a.bytes), ('L', a.longest)].filterMap
    fun (c, n) => if letters.contains c then some n else none

end TextCount

structure SortRule where
  numeric : Bool := false
  scaled : Bool := false
  backwards : Bool := false
  ignoresCase : Bool := false
  skipsBlanks : Bool := false
  wordsOnly : Bool := false

namespace SortRule

def put (r : SortRule) : Char → SortRule
  | 'n' => { r with numeric := true }
  | 'g' => { r with numeric := true }
  | 'h' => { r with numeric := true, scaled := true }
  | 'r' => { r with backwards := true }
  | 'f' => { r with ignoresCase := true }
  | 'b' => { r with skipsBlanks := true }
  | 'd' => { r with wordsOnly := true }
  | _ => r

def numberAt (s : List Char) : Int × Nat × List Char :=
  let s := s.dropWhile isSpace
  let (negative, s) := match s with
    | '-' :: s => (true, s)
    | s => (false, s)
  let whole := s.takeWhile Char.isDigit
  let (places, rest) := match s.drop whole.length with
    | '.' :: t => (t.takeWhile Char.isDigit, t.dropWhile Char.isDigit)
    | t => ([], t)
  let n : Int := digitsValue 10 (whole ++ places)
  (if negative then -n else n, places.length, rest)

def compare (r : SortRule) (a b : List Char) : Ordering :=
  let shaped (s : List Char) : List Char :=
    let s := if r.wordsOnly then s.filter fun c => c.isAlphanum || c == ' ' || c == '\t' else s
    if r.ignoresCase then s.map Char.toUpper else s
  let order :=
    if r.numeric then
      let (x, p, s) := numberAt a
      let (y, q, t) := numberAt b
      let rank (s : List Char) : Nat := match s with
        | c :: _ => ("KMGTPEZY".toList.findIdx? (· == c.toUpper)).elim 0 (· + 1)
        | [] => 0
      let scale := if r.scaled then Ord.compare (rank s) (rank t) else .eq
      let plain := Ord.compare (x * (Nat.pow 10 q : Nat)) (y * (Nat.pow 10 p : Nat))
      if x = 0 || y = 0 || (x < 0) ≠ (y < 0) then plain
      else if x < 0 then scale.swap.then plain else scale.then plain
    else if shaped a < shaped b then .lt
    else if shaped b < shaped a then .gt
    else .eq
  if r.backwards then order.swap else order

end SortRule

structure SortKey where
  startField : Nat
  startChar : Nat
  stop : Option (Nat × Nat)
  rule : Option SortRule
  skipsAtStart : Bool := false
  skipsAtEnd : Bool := false

namespace SortKey

def isBlank (c : Char) : Bool := c == ' ' || c == '\t' || c == '\n'

def dropFields (separator : Option Char) : Nat → List Char → List Char
  | 0, s => s
  | n + 1, s => match separator with
    | some c => dropFields separator n ((s.dropWhile (· != c)).drop 1)
    | none => dropFields separator n ((s.dropWhile isBlank).dropWhile (!isBlank ·))

def throughField (separator : Option Char) (field : Nat) (s : List Char) : List Char :=
  let before := dropFields separator field s
  let length := match separator with
    | some c => (before.takeWhile (· != c)).length
    | none =>
      let blanks := before.takeWhile isBlank
      blanks.length + ((before.drop blanks.length).takeWhile (!isBlank ·)).length
  s.take (s.length - before.length + length)

def partOf (separator : Option Char) (k : SortKey) (line : List Char) : List Char :=
  let start := dropFields separator k.startField line
  let start := (if k.skipsAtStart then start.dropWhile isBlank else start).drop k.startChar
  match k.stop with
  | none => start
  | some (field, 0) =>
    let whole := throughField separator field line
    start.take (whole.length - (line.length - start.length))
  | some (field, c) =>
    let from_ := dropFields separator field line
    let from_ := if k.skipsAtEnd then from_.dropWhile isBlank else from_
    let stop := line.length - from_.length + c
    start.take (stop - (line.length - start.length))

def place? (s : List Char) : Option (Nat × Nat × List Char) :=
  let field := s.takeWhile Char.isDigit
  if field = [] then none
  else match s.drop field.length with
    | '.' :: t =>
      let c := t.takeWhile Char.isDigit
      some (digitsValue 10 field, digitsValue 10 c, t.drop c.length)
    | t => some (digitsValue 10 field, 0, t)

def read? (s : List Char) : Option SortKey := do
  let (field, c, letters) ← place? (s.takeWhile (· != ','))
  let after := (s.dropWhile (· != ',')).drop 1
  let last ← if after = [] then some none else (place? after).map some
  let more := (last.map fun p => p.2.2).getD []
  if field = 0 then none
  return {
    startField := field - 1, startChar := c - 1
    stop := last.map fun p => (p.1 - 1, p.2.1)
    rule := if letters = [] ∧ more = [] then none
      else some ((letters ++ more).foldl SortRule.put {})
    skipsAtStart := letters.contains 'b', skipsAtEnd := more.contains 'b' }

end SortKey

def runsOf (same : List Char → List Char → Bool) : List (List Char) → List (List Char × Nat)
  | [] => []
  | l :: ls => match runsOf same ls with
    | (m, n) :: rest => if same l m then (l, n + 1) :: rest else (l, 1) :: (m, n) :: rest
    | [] => [(l, 1)]

namespace Invocation

variable (i : Invocation)

def wc : Effect :=
  i.withOptions 1 "clmwL" "" [("bytes", 'c'), ("chars", 'm'), ("lines", 'l'), ("words", 'w'),
      ("max-line-length", 'L')] fun (options : Options) paths =>
      let letters := options.map Prod.fst
      let shown := if paths.isEmpty then ["-"] else paths
      let found := shown.map fun path => (path, i.content path)
      let counted := (TextCount.chosen letters {}).length
      let isPlain (path : String) : Bool :=
        if path = "-" then i.inputIsFile
        else match i.files.find? i.dir path with
          | some (.file ..) => true
          | _ => false
      let size := (found.map fun (path, c) => match c with
        | .ok s => if isPlain path then s.length else 0
        | .error _ => 0).foldl Nat.add 0
      let narrow := shown.length = 1 && counted = 1
      let odd := found.any fun (path, c) => match c with
        | .ok _ => !isPlain path
        | .error why => why = "Is a directory"
      let width := if narrow then 1 else max (if odd then 7 else 1) (Nat.toDigits 10 size).length
      let row (path : String) (c : TextCount) : List Char :=
        (List.intersperse [' '] ((c.chosen letters).map (rightAligned width))).flatten ++
          (if paths.isEmpty then [] else ' ' :: path.toList) ++ ['\n']
      let step (e : Effect × TextCount) (f : String × Except String (List Char)) :
          Effect × TextCount :=
        match f.2 with
        | .ok s =>
          let c := TextCount.ofText s
          let e' := e.1.write (row f.1 c)
          ({ e' with
              input := if f.1 = "-" then .all else e.1.input
              endless := e.1.endless || i.isEndless f.1 }, e.2.add c)
        | .error why =>
          let e' := e.1.complain 1 (i.name ++ ": " ++ shownPath f.1 ++ ": " ++ why)
          (if why = "Is a directory" then e'.write (row f.1 {}) else e', e.2)
      let (e, total) := found.foldl step ({}, {})
      if 1 < shown.length then e.write (row "total" total) else e

def sort : Effect :=
  i.withOptions 2 "bcCdfghimMnrRsuVz" "kotST" [("reverse", 'r'), ("numeric-sort", 'n'),
      ("unique", 'u'), ("ignore-case", 'f'), ("key", 'k'), ("field-separator", 't'),
      ("stable", 's'), ("check", 'c'), ("output", 'o'), ("human-numeric-sort", 'h'),
      ("ignore-leading-blanks", 'b'), ("dictionary-order", 'd')] fun (options : Options) paths =>
      let (e, found) := i.contents paths fun path why =>
        (if why = "Is a directory" then "read failed: " else "cannot read: ") ++ shownPath path ++
          ": " ++ why
      let general := (options.map Prod.fst).foldl SortRule.put {}
      let separator := (options.valueOf? 't').bind fun t => t.toList.head?
      let given := options.filterMap fun o => if o.1 = 'k' then some o.2 else none
      match given.find? fun k => (SortKey.read? k.toList).isNone with
      | some k =>
        let atZero := k.toList.head? = some '0'
        i.failing 2 ((if atZero then "field number is zero: invalid field specification "
          else "invalid number at field start: invalid count at start of ") ++ shownArgument k)
      | none =>
        if e.status ≠ 0 then { e with status := 2 }
        else
          let keys := given.filterMap fun k => SortKey.read? k.toList
          let keys := if keys.isEmpty then [⟨0, 0, none, some general, general.skipsBlanks, false⟩]
            else keys.map fun k => if k.rule.isSome then k
              else { k with skipsAtStart := general.skipsBlanks, skipsAtEnd := general.skipsBlanks }
          let byKeys (a b : List Char) : Ordering := keys.foldl (fun o k => o.then
            ((k.rule.getD general).compare (k.partOf separator a) (k.partOf separator b))) .eq
          let whole (a b : List Char) : Ordering :=
            if options.has 's' || options.has 'u' then .eq
            else ({ backwards := general.backwards } : SortRule).compare a b
          let order (a b : List Char) : Ordering := (byKeys a b).then (whole a b)
          let lines := found.flatMap fun f => bareLines f.2
          if options.has 'c' || options.has 'C' then
            let pairs := (lines.zip (lines.drop 1)).zipIdx
            match pairs.find? fun p => (order p.1.1 p.1.2) = .gt ||
                (options.has 'u' && (byKeys p.1.1 p.1.2) = .eq) with
            | none => e
            | some p =>
              let e := { e with status := 1 }
              if options.has 'C' then e
              else e.complain 1 (i.name ++ ": " ++ paths.headD "-" ++ ":" ++ toString (p.2 + 2) ++
                ": disorder: " ++ String.ofList p.1.2)
          else
            let sorted := lines.mergeSort fun a b => (order a b) ≠ .gt
            let kept := if options.has 'u' then
                (runsOf (fun a b => (byKeys a b) = .eq) sorted).map Prod.fst
              else sorted
            let out := unlines kept
            match options.valueOf? 'o' with
            | none => e.write out
            | some path => match i.written i.files path out false with
              | .ok files => { e with files := some files }
              | .error why => e.complain 2 (i.name ++ ": open failed: " ++ shownPath path ++ ": " ++ why)

def uniq : Effect :=
  i.withOptions 1 "cdDiuz" "fsw" [("count", 'c'), ("repeated", 'd'), ("unique", 'u'),
      ("ignore-case", 'i'), ("skip-fields", 'f'), ("skip-chars", 's'), ("check-chars", 'w')]
    fun (options : Options) paths =>
      let number (letter : Char) : Option Nat :=
        (options.valueOf? letter).bind fun v => natOf? v.toList
      let (e, text) := i.joined (paths.take 1)
      let skipField (s : List Char) : List Char :=
        (s.dropWhile SortKey.isBlank).dropWhile (!SortKey.isBlank ·)
      let part (line : List Char) : List Char :=
        let s := (Nat.repeat skipField ((number 'f').getD 0) line).drop ((number 's').getD 0)
        let s := match number 'w' with
          | some n => s.take n
          | none => s
        if options.has 'i' then s.map Char.toLower else s
      let runs := runsOf (fun a b => part a == part b) (bareLines text)
      if options.has 'D' then
        e.write (runs.flatMap fun (l, n) => if 1 < n then (List.replicate n (l ++ ['\n'])).flatten
          else [])
      else
        let kept := runs.filter fun (_, n) =>
          (!options.has 'd' || 1 < n) && (!options.has 'u' || n = 1)
        let out := kept.flatMap fun (l, n) =>
          (if options.has 'c' then rightAligned 7 n ++ [' '] else []) ++ l ++ ['\n']
        match paths[1]? with
        | none => e.write out
        | some path => match i.written i.files path out false with
          | .ok files => { e with files := some files }
          | .error why => e.complain 1 (i.name ++ ": " ++ shownPath path ++ ": " ++ why)

end Invocation

end HostProbe.Posix
