import HostProbe.Posix.Arithmetic
import HostProbe.Posix.Fraction
import HostProbe.Posix.Quoting

/-! # Formatted output

A format is text with directives that each take an argument. The format is used again as long as
arguments are left. An argument that is not what its directive needs is complained about; a
directive that cannot be read ends the output. -/

namespace HostProbe.Posix

structure Directive where
  left : Bool := false
  zero : Bool := false
  plus : Bool := false
  blank : Bool := false
  marked : Bool := false
  width : Nat := 0
  precision : Option Nat := none

inductive FormatEvent where
  | text (s : List Char)
  | complaint (about : List Char) (what : String)
  | warning (s : List Char)
  deriving Repr

structure Filling where
  arguments : List String
  events : List FormatEvent := []
  used : Bool := false
  stopped : Bool := false
  fault : Option String := none

namespace Filling

def write (f : Filling) (s : List Char) : Filling := { f with events := f.events ++ [.text s] }

def next (f : Filling) : List Char × Filling :=
  ((f.arguments.headD "").toList, { f with arguments := f.arguments.tail, used := true })

def complain (f : Filling) (about : List Char) (what : String) : Filling :=
  { f with events := f.events ++ [.complaint about what] }

end Filling

namespace Directive

def pad (d : Directive) (s : List Char) : List Char :=
  let blanks := List.replicate (d.width - s.length) ' '
  if d.left then s ++ blanks else blanks ++ s

def padNumber (d : Directive) (zeros : Bool) (mark digits : List Char) : List Char :=
  if zeros && d.zero && !d.left then
    mark ++ List.replicate (d.width - mark.length - digits.length) '0' ++ digits
  else d.pad (mark ++ digits)

def sign (d : Directive) (negative : Bool) : List Char :=
  if negative then ['-'] else if d.plus then ['+'] else if d.blank then [' '] else []

def digits (d : Directive) (base n : Nat) : List Char :=
  let ds := if n = 0 ∧ d.precision = some 0 then [] else Nat.toDigits base n
  List.replicate (d.precision.getD 0 - ds.length) '0' ++ ds

def signed (d : Directive) (n : Int) : List Char :=
  d.padNumber d.precision.isNone (d.sign (n < 0)) (d.digits 10 n.natAbs)

def unsigned (d : Directive) (conversion : Char) (n : Nat) : List Char :=
  let ds := d.digits (if conversion = 'o' then 8 else if conversion = 'u' then 10 else 16) n
  let mark := if !d.marked || n = 0 || conversion = 'u' then []
    else if conversion = 'o' then (if ds.head? = some '0' then [] else ['0'])
    else ['0', conversion]
  d.padNumber d.precision.isNone mark
    (if conversion = 'X' then ds.map Char.toUpper else ds)

def fraction (d : Directive) (conversion : Char) (x : Fraction.Reading) : List Char :=
  let upper := conversion.isUpper
  let finish (s : List Char) : List Char := if upper then s.map Char.toUpper else s
  match x with
  | .infinite negative => finish (d.pad (d.sign negative ++ "inf".toList))
  | .noNumber negative => finish (d.pad (d.sign negative ++ "nan".toList))
  | .finite negative value =>
    let ds := match conversion.toLower with
      | 'e' => value.scientific (d.precision.getD 6) d.marked
      | 'g' => value.general (d.precision.getD 6) d.marked
      | _ => value.positional (d.precision.getD 6) d.marked
    finish (d.padNumber true (d.sign negative) ds)

end Directive

structure Numeral where
  value : Int
  rest : List Char
  found : Bool

def numeralOf (arg : List Char) : Numeral :=
  let t := arg.dropWhile fun c => c == ' ' || (9 ≤ c.toNat && c.toNat ≤ 13)
  let (negative, t) := match t with
    | '-' :: t => (true, t)
    | '+' :: t => (false, t)
    | t => (false, t)
  if t.head?.any Char.isDigit then
    let (n, rest) := Arithmetic.numeral t
    ⟨if negative then -(n : Int) else n, rest, true⟩
  else ⟨0, arg, false⟩

namespace Filling

def wording (dialect : EscapeDialect) (arg : List Char) : List Char × String × String :=
  if dialect = .shell then (arg, "expected numeric value", "not completely converted")
  else (quotedArgument arg, "expected a numeric value", "value not completely converted")

def check (f : Filling) (dialect : EscapeDialect) (arg rest : List Char) (found inRange : Bool) :
    Filling :=
  let (about, unread, partly) := wording dialect arg
  if !inRange then f.complain about "Numerical result out of range"
  else if rest.isEmpty then f
  else f.complain about (if found then partly else unread)

def warn (f : Filling) (rest : List Char) : Filling :=
  { f with events := f.events ++ [.warning (rest ++
      ": character(s) following character constant have been ignored".toList)] }

def nextNumber (f : Filling) (dialect : EscapeDialect) (low high : Int) : Int × Filling :=
  let (arg, f) := f.next
  let letter (c : Char) (rest : List Char) : Int × Filling :=
    ((c.toNat : Int), if rest.isEmpty || dialect = .shell then f else f.warn rest)
  match if dialect = .shell && arg.length = 1 then arg ++ ['\x00'] else arg with
  | '\x27' :: c :: rest => letter c rest
  | '"' :: c :: rest => letter c rest
  | _ =>
    let n := numeralOf arg
    let wide := -18446744073709551616
    let value := if low = 0 ∧ n.value < 0 ∧ wide < n.value then n.value + 18446744073709551616
      else n.value
    let kept := if value < low then (if low = 0 then high else low)
      else if high < value then high else value
    (kept, f.check dialect arg n.rest n.found (kept = value))

def nextFraction (f : Filling) (dialect : EscapeDialect) : Fraction.Reading × Filling :=
  let (arg, f) := f.next
  match arg with
  | '\x27' :: c :: _ => (.finite false ⟨c.toNat, 1⟩, f)
  | '"' :: c :: _ => (.finite false ⟨c.toNat, 1⟩, f)
  | [] => (.finite false ⟨0, 1⟩, f.check dialect [] [] true true)
  | _ => match Fraction.read? arg with
    | some (x, rest) =>
      (x.toBits (if dialect = .shell then 53 else 64), f.check dialect arg rest true true)
    | none => (.finite false ⟨0, 1⟩, f.check dialect arg arg false true)

def measure (f : Filling) (dialect : EscapeDialect) (s : List Char) :
    Option Int × Filling × List Char :=
  match s with
  | '*' :: s =>
    let (n, f) := f.nextNumber dialect (-2147483648) 2147483647
    (some n, f, s)
  | s =>
    let ds := s.takeWhile Char.isDigit
    (if ds = [] then none else some (digitsValue 10 ds), f, s.drop ds.length)

def convert (f : Filling) (dialect : EscapeDialect) (d : Directive) (conversion : Char) : Filling :=
  match conversion with
  | 's' =>
    let (arg, f) := f.next
    f.write (d.pad (match d.precision with
      | some n => arg.take n
      | none => arg))
  | 'c' =>
    let (arg, f) := f.next
    f.write (d.pad (if arg = [] then ['\x00'] else arg.take 1))
  | 'b' =>
    let (arg, f) := f.next
    let (s, stop) := expandEscapes dialect arg
    { f.write (d.pad (match d.precision with
      | some n => s.take n
      | none => s)) with stopped := stop }
  | c =>
    if c == 'd' || c == 'i' then
      let (n, f) := f.nextNumber dialect (-9223372036854775808) 9223372036854775807
      f.write (d.signed n)
    else if "ouxX".toList.contains c then
      let (n, f) := f.nextNumber dialect 0 18446744073709551615
      f.write (d.unsigned c n.toNat)
    else
      let (x, f) := f.nextFraction dialect
      f.write (d.fraction c x)

def conversions : List Char := "sbcdiouxXeEfFgG".toList

def sizeLetters (dialect : EscapeDialect) : List Char :=
  if dialect = .shell then [] else "hlLjtz".toList

def directive (f : Filling) (dialect : EscapeDialect) (s : List Char) : Filling × List Char :=
  let flags := s.takeWhile fun c => "#-+ 0".toList.contains c || (c == '\x27' && dialect ≠ .shell)
  let (width, f, t) := f.measure dialect (s.drop flags.length)
  let (precision, f, t) := match t with
    | '.' :: t =>
      let (p, f, t) := f.measure dialect t
      (some (p.getD 0), f, t)
    | t => (none, f, t)
  let t := t.dropWhile (sizeLetters dialect).contains
  let d : Directive := {
    left := flags.contains '-' || width.any (· < 0), zero := flags.contains '0'
    plus := flags.contains '+', blank := flags.contains ' ', marked := flags.contains '#'
    width := (width.getD 0).natAbs
    precision := precision.bind fun p => if p < 0 then none else some p.toNat }
  let shown (t : List Char) : String := String.ofList ('%' :: s.take (s.length - t.length))
  match t with
  | [] => ({ f with stopped := true, fault := some (if dialect = .shell then
      "missing format character" else shown [] ++ ": invalid conversion specification") }, [])
  | c :: t =>
    let isBare := t.length + 1 = s.length
    if dialect ≠ .shell ∧ c = 'q' ∧ isBare then
      let (arg, f) := f.next
      (f.write (if needsQuotes arg then shellQuoted arg else arg), t)
    else if conversions.contains c ∧ (dialect = .shell ∨ c ≠ 'b' ∨ isBare) then
      (f.convert dialect d c, t)
    else ({ f with stopped := true, fault := some (shown t ++ (if dialect = .shell then
      ": invalid directive" else ": invalid conversion specification")) }, [])

/-- What an escape with digits to the base 16 writes, and what follows it; `s` stands after the
backslash. Of the characters only those of one byte can be written. -/
def codeEscape? (s : List Char) : Option (Except String (List Char × List Char)) :=
  let missing : Except String (List Char × List Char) :=
    .error "missing hexadecimal number in escape"
  let character (letter : Char) (count : Nat) (t : List Char) :
      Except String (List Char × List Char) :=
    let ds := (t.take count).takeWhile isHex
    let n := digitsValue 16 ds
    let shown := List.replicate (count - (Nat.toDigits 16 n).length) '0' ++ Nat.toDigits 16 n
    if ds.length < count then missing
    else if 0xd800 ≤ n ∧ n ≤ 0xdfff then
      .error ("invalid universal character name " ++ String.ofList ('\\' :: letter :: shown))
    else if n < 128 then .ok ([byteOf n], t.drop count)
    else .ok ('\\' :: letter :: shown.map Char.toUpper, t.drop count)
  match s with
  | 'x' :: t => if t.head?.any isHex then none else some missing
  | 'u' :: t => some (character 'u' 4 t)
  | 'U' :: t => some (character 'U' 8 t)
  | _ => none

def once (dialect : EscapeDialect) : Nat → List Char → Filling → Filling
  | 0, _, f => f
  | _ + 1, [], f => f
  | n + 1, '%' :: '%' :: s, f => once dialect n s (f.write ['%'])
  | n + 1, '%' :: s, f =>
    let (f, s) := f.directive dialect s
    if f.stopped then f else once dialect n s f
  | n + 1, '\\' :: s, f =>
    if s.head? = some 'c' && dialect ≠ .shell then { f with stopped := true }
    else match if dialect = .shell then none else codeEscape? s with
      | some (.error fault) => { f with stopped := true, fault := some fault }
      | some (.ok (b, s)) => once dialect n s (f.write b)
      | none =>
        let (b, s) := readEscape dialect s
        once dialect n s (f.write b)
  | n + 1, c :: s, f =>
    let more := s.takeWhile fun c => c != '%' && c != '\\'
    once dialect n (s.drop more.length) (f.write (c :: more))

def again (dialect : EscapeDialect) (format : List Char) : Nat → Filling → Filling
  | 0, f => f
  | n + 1, f =>
    let f := once dialect (format.length + 1) format { f with used := false }
    if f.stopped || !f.used || f.arguments.isEmpty then f else again dialect format n f

end Filling

def formatted (dialect : EscapeDialect) (format : String) (args : List String) : Filling :=
  Filling.again dialect format.toList (args.length + 1) { arguments := args }

end HostProbe.Posix
