import HostProbe.Decimal.Integer
import HostProbe.Text.LowerCase

/-! # Binary floating point in decimal

Reading a decimal rounds once, to the nearest value of 64 bits. Writing with a fixed number of
places works on the exact value of the bits and sends a tie to the even digit. -/

namespace HostProbe.Decimal

open HostProbe.Text

/-- The value `(-1)^negative · digits · 10^exponent`, rounded to nearest. Beyond 400 places on
either side of the point the exponent no longer matters. -/
def floatOf (negative : Bool) (digits : Nat) (exponent : Int) : Float :=
  let size : Int := (Nat.toDigits 10 digits).length
  let magnitude : Float :=
    if digits = 0 then 0.0
    else if exponent + size > 400 then 1.0 / 0.0
    else if exponent + size < -400 then 0.0
    else if exponent < 0 then Float.ofScientific digits true exponent.natAbs
    else Float.ofScientific digits false exponent.natAbs
  if negative then -magnitude else magnitude

def readSign : List Char → Bool × List Char
  | '-' :: s => (true, s)
  | '+' :: s => (false, s)
  | s => (false, s)

def readExponent? (s : List Char) : Option Int :=
  let (negative, digits) := readSign s
  (readNat? digits).map fun n => if negative then -(n : Int) else (n : Int)

/-- A decimal up to the end of the text: digits with an optional point among or around them, and an
optional exponent. -/
def readMagnitude? (negative : Bool) (s : List Char) : Option Float :=
  let whole := s.takeWhile isAsciiDigit
  let afterWhole := s.dropWhile isAsciiDigit
  let (fraction, afterFraction) := match afterWhole with
    | '.' :: r => (r.takeWhile isAsciiDigit, r.dropWhile isAsciiDigit)
    | r => ([], r)
  if whole.isEmpty && fraction.isEmpty then none
  else
    let exponent? := match afterFraction with
      | [] => some 0
      | c :: r => if c = 'e' ∨ c = 'E' then readExponent? r else none
    exponent?.map fun e => floatOf negative (ofDigits (whole ++ fraction)) (e - fraction.length)

def readSpecial? (s : List Char) : Option Float :=
  match String.ofList (s.map Char.toLower) with
  | "inf" => some (1.0 / 0.0)
  | "infinity" => some (1.0 / 0.0)
  | "nan" => some (0.0 / 0.0)
  | _ => none

/-- A floating-point number: an optional sign and a decimal, or the name of a special value in any
case of letters. -/
def readFloat? (s : List Char) : Option Float :=
  let (negative, rest) := readSign s
  match readSpecial? rest with
  | some x => some (if negative then -x else x)
  | none => readMagnitude? negative rest

def exactParts (x : Float) : Nat × Int :=
  let bits := x.toBits.toNat
  let field : Nat := bits / Nat.pow 2 52 % Nat.pow 2 11
  let fraction : Nat := bits % Nat.pow 2 52
  if field = 0 then (fraction, -1074) else (fraction + Nat.pow 2 52, (field : Int) - 1075)

def roundHalfEven (num den : Nat) : Nat :=
  let q := num / den
  let r := num % den
  if 2 * r < den then q else if 2 * r > den then q + 1 else if q % 2 = 0 then q else q + 1

def inUnits (places : Nat) (x : Float) : Nat :=
  let (m, e) := exactParts x
  if e < 0 then roundHalfEven (m * Nat.pow 10 places) (Nat.pow 2 e.natAbs)
  else m * Nat.pow 10 places * Nat.pow 2 e.natAbs

def padLeft (width : Nat) (s : String) : String :=
  String.ofList (List.replicate (width - s.length) '0') ++ s

def twoPlaces (x : Float) : String :=
  let n := inUnits 2 x
  toString (n / 100) ++ "." ++ padLeft 2 (toString (n % 100))

def bitsText (x : Float) : String :=
  if x.isNaN then "nan" else padLeft 16 (String.ofList (Nat.toDigits 16 x.toBits.toNat))

end HostProbe.Decimal
