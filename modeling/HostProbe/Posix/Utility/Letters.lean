import HostProbe.Posix.Pattern
import HostProbe.Posix.Utility.Basic

/-! # Replacing letters

One utility replaces, removes or merges single bytes. Its arguments are sets of bytes, written with
ranges, classes, escapes and repetitions. -/

namespace HostProbe.Posix

open Effect

inductive LetterItem where
  | one (c : Char)
  | range (first last : Char)
  | named (name : List Char)
  | repeated (c : Char) (count : Option Nat)

namespace LetterItem

def letters : LetterItem → List Char
  | .one c => [c]
  | .range a b => (List.range (b.toNat + 1 - a.toNat)).map fun (k : Nat) => byteOf (a.toNat + k)
  | .named name => ((List.range 256).map byteOf).filter (inNamedSet name)
  | .repeated c count => List.replicate (count.getD 0) c

def letter : List Char → Option (Char × Bool × List Char)
  | [] => none
  | '\\' :: c :: s =>
    if isOctal c then some ((octalByte 3 (c :: s)).1, true, (octalByte 3 (c :: s)).2)
    else some ((if c = 'e' then none else namedEscape? c).getD c, true, s)
  | c :: s => some (c, false, s)

def bracketed? (s : List Char) : Option (LetterItem × List Char) :=
  match s with
  | '[' :: ':' :: t =>
    let name := t.takeWhile Char.isAlpha
    match t.drop name.length with
    | ':' :: ']' :: rest => some (.named name, rest)
    | _ => none
  | '[' :: '=' :: c :: '=' :: ']' :: rest => some (.one c, rest)
  | '[' :: t => match letter t with
    | some (c, _, '*' :: t) =>
      let ds := t.takeWhile Char.isDigit
      match t.drop ds.length with
      | ']' :: rest =>
        let n := digitsValue (if ds.head? = some '0' then 8 else 10) ds
        some (.repeated c (if n = 0 then none else some n), rest)
      | _ => none
    | _ => none
  | _ => none

def readAll : Nat → List Char → Except String (List LetterItem)
  | 0, _ => .ok []
  | n + 1, s =>
    match bracketed? s with
    | some (item, rest) => (readAll n rest).map (item :: ·)
    | none => match letter s with
      | none => .ok []
      | some (a, _, '-' :: t) => match letter t with
        | some (b, _, rest) =>
          if b < a then .error ("range-endpoints of " ++ shownArgument (String.ofList [a, '-', b]) ++
            " are in reverse collating sequence order")
          else (readAll n rest).map (.range a b :: ·)
        | none => .ok [.one a, .one '-']
      | some (a, _, rest) => (readAll n rest).map (.one a :: ·)

def lettersOf (length : Nat) (items : List LetterItem) : List Char :=
  let known := (items.flatMap letters).length
  items.flatMap fun
    | .repeated c none => List.replicate (length - known) c
    | item => item.letters

end LetterItem

def squeezed (isMember : Char → Bool) : List Char → List Char
  | a :: b :: s =>
    if a = b && isMember a then squeezed isMember (b :: s) else a :: squeezed isMember (b :: s)
  | s => s

namespace Invocation

variable (i : Invocation)

def tr : Effect :=
  i.withOptions 1 "cCdst" "" [("complement", 'c'), ("delete", 'd'), ("squeeze-repeats", 's'),
      ("truncate-set1", 't')] fun options args =>
      let deletes := options.has 'd'
      let squeezes := options.has 's'
      let refused (extra : String) (arg : String) : Effect :=
        let e := i.failing 1 ((if args.length < 2 then "missing operand after \x27"
          else "extra operand \x27") ++ arg ++ "\x27")
        let e := if extra.isEmpty then e else e.complain 1 extra
        e.complain 1 ("Try \x27" ++ i.name ++ " --help\x27 for more information.")
      let run (first : String) (second : Option String) : Except String Effect := do
        let a ← LetterItem.readAll (first.length + 1) first.toList
        let source := LetterItem.lettersOf 0 a
        let source := if options.has 'c' || options.has 'C' then
            ((List.range 256).map byteOf).filter fun c => !source.contains c
          else source
        let b ← match second with
          | some t => LetterItem.readAll (t.length + 1) t.toList
          | none => pure []
        let target := LetterItem.lettersOf source.length b
        let done (out : List Char) : Effect := (writing out).readingAll
        if deletes then
          let kept := i.input.filter fun c => !source.contains c
          return done (if squeezes then squeezed target.contains kept else kept)
        else if second.isNone then return done (squeezed source.contains i.input)
        else if target.isEmpty && !options.has 't' then
          throw "when not truncating set1, string2 must be non-empty"
        else
          let source := if options.has 't' then source.take target.length else source
          let table := (source.zipIdx.map fun (c, k) =>
            (c, (target[k]?.or target.getLast?).getD c)).reverse
          let image := ((List.range 256).map fun n => (table.lookup (byteOf n)).getD (byteOf n)).toArray
          let out := i.input.map fun c => image.getD c.toNat c
          return done (if squeezes then squeezed target.contains out else out)
      let finish (r : Except String Effect) : Effect := match r with
        | .ok e => { e with endless := i.endless }
        | .error message => i.failing 1 message
      match args with
      | [] => i.misused 1 "missing operand"
      | [a] =>
        if deletes && squeezes then refused
          "Two strings must be given when both deleting and squeezing repeats." a
        else if deletes || squeezes then finish (run a none)
        else refused "Two strings must be given when translating." a
      | [a, b] =>
        if deletes && !squeezes then refused
          "Only one string may be given when deleting without squeezing repeats." b
        else finish (run a (some b))
      | _ :: _ :: c :: _ => refused "" c

end Invocation

end HostProbe.Posix
