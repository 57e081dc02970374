import HostProbe.Posix.Bytes

/-! # Fractions in formatted output

A decimal is rounded to a number of binary digits when it is read, and the exact value of that is
rounded to decimal places when it is written; a half goes to the even neighbour each time. -/

namespace HostProbe.Posix

structure Fraction where
  num : Nat
  den : Nat
  deriving DecidableEq, Repr

namespace Fraction

inductive Reading where
  | finite (negative : Bool) (value : Fraction)
  | infinite (negative : Bool)
  | noNumber (negative : Bool)
  deriving DecidableEq, Repr

def roundDiv (a b : Nat) : Nat :=
  let q := a / b
  let r := a % b
  if 2 * r < b ∨ (2 * r = b ∧ q % 2 = 0) then q else q + 1

def tenTo (n : Nat) : Nat := Nat.pow 10 n

def scaled (x : Fraction) (k : Int) : Fraction :=
  if 0 ≤ k then ⟨x.num <<< k.toNat, x.den⟩ else ⟨x.num, x.den <<< (-k).toNat⟩

def toBits (bits : Nat) (x : Fraction) : Fraction :=
  if x.num = 0 then ⟨0, 1⟩
  else
    let k : Int := (bits : Int) - Nat.log2 x.num + Nat.log2 x.den
    let y := x.scaled k
    let k := k + bits - 1 - Nat.log2 (y.num / y.den)
    let y := x.scaled k
    (⟨roundDiv y.num y.den, 1⟩ : Fraction).scaled (-k)

def withPoint (places : Nat) (marked : Bool) (n : Nat) : List Char :=
  let ds := Nat.toDigits 10 n
  let ds := List.replicate (places + 1 - ds.length) '0' ++ ds
  let whole := ds.take (ds.length - places)
  if places = 0 then whole ++ (if marked then ['.'] else [])
  else whole ++ '.' :: ds.drop (ds.length - places)

def positional (x : Fraction) (places : Nat) (marked : Bool) : List Char :=
  withPoint places marked (roundDiv (x.num * tenTo places) x.den)

def exponent (x : Fraction) : Int :=
  if x.num = 0 then 0
  else if x.den ≤ x.num then ((Nat.toDigits 10 (x.num / x.den)).length : Int) - 1
  else -(((Nat.toDigits 10 ((x.den + x.num - 1) / x.num - 1)).length : Nat) : Int)

def rounded (x : Fraction) (places : Nat) : Nat × Int :=
  let at_ (e : Int) : Nat :=
    let k := (places : Int) - e
    if 0 ≤ k then roundDiv (x.num * tenTo k.toNat) x.den
    else roundDiv x.num (x.den * tenTo (-k).toNat)
  let e := x.exponent
  if at_ e < tenTo (places + 1) then (at_ e, e) else (at_ (e + 1), e + 1)

def powerText (e : Int) : List Char :=
  let ds := Nat.toDigits 10 e.natAbs
  'e' :: (if e < 0 then '-' else '+') :: (if ds.length < 2 then '0' :: ds else ds)

def scientific (x : Fraction) (places : Nat) (marked : Bool) : List Char :=
  let (n, e) := x.rounded places
  withPoint places marked n ++ powerText e

def withoutZeros (s : List Char) : List Char :=
  if s.contains '.' then
    let t := (s.reverse.dropWhile (· == '0')).reverse
    if t.getLast? = some '.' then t.dropLast else t
  else s

def general (x : Fraction) (digits : Nat) (marked : Bool) : List Char :=
  let digits := max digits 1
  let (n, e) := x.rounded (digits - 1)
  if e < -4 ∨ (digits : Int) ≤ e then
    let s := withPoint (digits - 1) marked n
    (if marked then s else withoutZeros s) ++ powerText e
  else
    let s := x.positional ((digits : Int) - 1 - e).toNat marked
    if marked then s else withoutZeros s

def readPower (letter : Char) (s : List Char) : Int × List Char :=
  match s with
  | e :: rest =>
    if e.toLower == letter then
      let (negative, t) := match rest with
        | '-' :: t => (true, t)
        | '+' :: t => (false, t)
        | t => (false, t)
      let ds := t.takeWhile Char.isDigit
      if ds = [] then (0, s)
      else
        let n : Int := digitsValue 10 (ds.take 6)
        (if negative then -n else n, t.drop ds.length)
    else (0, s)
  | [] => (0, [])

def readPlaces (isDigit : Char → Bool) (s : List Char) : List Char × List Char × List Char :=
  let whole := s.takeWhile isDigit
  let t := s.drop whole.length
  match t with
  | '.' :: r =>
    let places := r.takeWhile isDigit
    if whole = [] ∧ places = [] then ([], [], t) else (whole, places, r.drop places.length)
  | t => (whole, [], t)

def readHex? (s : List Char) : Option (Fraction × List Char) :=
  match readPlaces isHex s with
  | ([], [], _) => none
  | (whole, places, t) =>
    let (e, t) := readPower 'p' t
    let x : Fraction := ⟨digitsValue 16 (whole ++ places), 1⟩
    some (x.scaled (e - 4 * (places.length : Int)), t)

def readDecimal? (s : List Char) : Option (Fraction × List Char) :=
  match readPlaces Char.isDigit s with
  | ([], [], _) => none
  | (whole, places, t) =>
    let (e, t) := readPower 'e' t
    let n := digitsValue 10 (whole ++ places)
    let k := e - (places.length : Int)
    some (if 0 ≤ k then ⟨n * tenTo k.toNat, 1⟩ else ⟨n, tenTo (-k).toNat⟩, t)

def read? (s : List Char) : Option (Reading × List Char) :=
  let t := s.dropWhile fun c => c == ' ' || (9 ≤ c.toNat && c.toNat ≤ 13)
  let (negative, t) := match t with
    | '-' :: t => (true, t)
    | '+' :: t => (false, t)
    | t => (false, t)
  let starts (word : String) : Bool := word.toList.isPrefixOf (t.map Char.toLower)
  if starts "infinity" then some (.infinite negative, t.drop 8)
  else if starts "inf" then some (.infinite negative, t.drop 3)
  else if starts "nan" then some (.noNumber negative, t.drop 3)
  else
    let hex? := if starts "0x" then readHex? (t.drop 2) else none
    (hex? <|> readDecimal? t).map fun (x, t) => (.finite negative x, t)

def Reading.toBits (bits : Nat) : Reading → Reading
  | .finite negative x => .finite negative (x.toBits bits)
  | r => r

end Fraction

end HostProbe.Posix
