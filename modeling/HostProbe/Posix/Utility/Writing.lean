import HostProbe.Posix.Format
import HostProbe.Posix.Utility.Basic

/-! # Utilities that write what they are told

These read nothing: their output comes from their arguments. -/

namespace HostProbe.Posix

open Effect

namespace Invocation

variable (i : Invocation)

def echo : Effect :=
  let isOptions (a : String) : Bool := match a.toList with
    | '-' :: c :: cs => (c :: cs).all fun c => c == 'n' || c == 'e' || c == 'E'
    | _ => false
  let given := i.args.takeWhile isOptions
  let letters := given.flatMap fun a => a.toList.drop 1
  let text := (String.intercalate " " (i.args.drop given.length)).toList
  let escapes := (letters.filter (· != 'n')).getLast? = some 'e'
  let (out, stopped) := if escapes then expandEscapes .echo text else (text, false)
  writing (if letters.contains 'n' || stopped then out else out ++ ['\n'])

def printf : Effect :=
  match (if i.args.head? = some "--" then i.args.drop 1 else i.args) with
  | [] => i.misused 1 "missing operand"
  | format :: args =>
    let f := formatted .printf format args
    let e := f.events.foldl (fun e event => match event with
      | .text s => e.write s
      | .complaint about what => e.complain 1 (i.name ++ ": " ++ String.ofList about ++ ": " ++ what)
      | .warning s => e.complain e.status (i.name ++ ": warning: " ++ String.ofList s))
      ({} : Effect)
    match f.fault, f.arguments with
    | some message, _ => e.complain 1 (i.name ++ ": " ++ message)
    | none, a :: _ =>
      if f.used || f.stopped then e
      else e.complain e.status (i.name ++
        ": warning: ignoring excess arguments, starting with " ++ shownArgument a)
    | none, [] => e

def keptOutput : Nat := 200000

def yes : Effect :=
  let line := lineOf (if i.args.isEmpty then "y" else String.intercalate " " i.args)
  { writing (List.replicate (keptOutput / line.length + 1) line).flatten with endless := true }

def decimal? (s : List Char) : Option (Int × Nat) :=
  let (negative, t) := match s with
    | '-' :: t => (true, t)
    | '+' :: t => (false, t)
    | t => (false, t)
  let whole := t.takeWhile Char.isDigit
  let places? : Option (List Char) := match t.drop whole.length with
    | [] => some []
    | '.' :: places => if places.all Char.isDigit then some places else none
    | _ => none
  places?.bind fun places =>
    if whole = [] ∧ places = [] then none
    else
      let n : Int := digitsValue 10 (whole ++ places)
      some (if negative then -n else n, places.length)

def decimalText (places width : Nat) (n : Int) : List Char :=
  let ds := Fraction.withPoint places false n.natAbs
  let mark := if n < 0 then ['-'] else []
  mark ++ List.replicate (width - mark.length - ds.length) '0' ++ ds

def progression (first step last : Int) : List Int :=
  let count := if step = 0 then 0
    else if (0 < step) = (first ≤ last) || first = last then (last - first) / step + 1
    else 0
  (List.range (min count.toNat 2000000)).map fun (k : Nat) => first + step * (k : Int)

def seq : Effect :=
  let isNumber (a : String) : Bool := (decimal? a.toList).isSome
  let numbers := i.args.reverse.takeWhile isNumber
  let front := i.args.take (i.args.length - numbers.length)
  match { i with args := front }.options? true 1 ['w'] ['s', 'f']
      [("equal-width", 'w'), ("separator", 's'), ("format", 'f')] with
  | .error e => e
  | .ok (options, rest) =>
    let write (a b c : String) : Effect :=
      match [a, b, c].mapM fun x => decimal? x.toList with
      | some [(x, p), (y, q), (z, r)] =>
        let shown := max p q
        let places := max shown r
        let units (n : Int) (k : Nat) : Int := n * (Fraction.tenTo (places - k) : Nat)
        if y = 0 then
          i.misused 1 ("invalid Zero increment value: " ++ shownArgument b)
        else
          let all := progression (units x p) (units y q) (units z r)
          let text (width : Nat) (n : Int) : List Char :=
            decimalText shown width (n / (Fraction.tenTo (places - shown) : Nat))
          let width := if options.has 'w' then
              (all.map fun n => (text 0 n).length).foldl max 0
            else 0
          let joint := ((options.valueOf? 's').getD "\n").toList
          let out := match options.valueOf? 'f' with
            | some form => all.map fun n => (formatted .printf form
                [String.ofList (text 0 n)]).events.flatMap fun
                  | .text s => s
                  | _ => []
            | none => all.map (text width)
          writing (if out.isEmpty then [] else
            ((List.intersperse joint out).flatten ++ ['\n']))
      | _ => {}
    match rest ++ numbers.reverse with
    | [] => i.misused 1 "missing operand"
    | args =>
      match args.find? fun a => !isNumber a with
      | some a => i.misused 1 ("invalid floating point argument: " ++ shownArgument a)
      | none => match args with
        | [c] => write "1" "1" c
        | [a, c] => write a "1" c
        | [a, b, c] => write a b c
        | args => i.misused 1 ("extra operand " ++ shownArgument (args.getD 3 ""))

end Invocation

end HostProbe.Posix
