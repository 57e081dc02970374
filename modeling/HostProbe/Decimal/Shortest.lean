import HostProbe.Decimal.Binary64

/-! # The shortest decimal that reads back

A finite value stands for all reals that round to it. Of the decimals among these, the ones with the
fewest digits are taken, and of those the nearest to the value; of two at the same distance the even
one. -/

namespace HostProbe.Decimal

def inPowers (num den : Nat) (exponent : Int) : Nat × Nat :=
  if 0 ≤ exponent then (num, den * Nat.pow 10 exponent.natAbs)
  else (num * Nat.pow 10 exponent.natAbs, den)

def leadingPlaces (num den : Nat) : Nat → Nat
  | 0 => 0
  | fuel + 1 => if den ≤ num then 0 else leadingPlaces (num * 10) den fuel + 1

def magnitude (num den : Nat) : Int :=
  if den ≤ num then (Nat.toDigits 10 (num / den)).length
  else 1 - (leadingPlaces num den 400 : Int)

structure Neighbourhood where
  num : Nat
  low : Nat
  high : Nat
  den : Nat
  closed : Bool

def neighbourhood (mantissa : Nat) (exponent : Int) : Neighbourhood :=
  let up := if 0 ≤ exponent then Nat.pow 2 exponent.natAbs else 1
  let den := 4 * if 0 ≤ exponent then 1 else Nat.pow 2 exponent.natAbs
  let gap := if mantissa = Nat.pow 2 52 ∧ exponent ≠ -1074 then 1 else 2
  ⟨4 * mantissa * up, (4 * mantissa - gap) * up, (4 * mantissa + 2) * up, den, mantissa % 2 = 0⟩

def Neighbourhood.has (r : Neighbourhood) (digits : Nat) (exponent : Int) : Bool :=
  let (low, den) := inPowers r.low r.den exponent
  let (high, _) := inPowers r.high r.den exponent
  if r.closed then low ≤ digits * den && digits * den ≤ high
  else low < digits * den && digits * den < high

def Neighbourhood.onGrid? (r : Neighbourhood) (exponent : Int) : Option Nat :=
  let (num, den) := inPowers r.num r.den exponent
  let below := num / den
  match r.has below exponent && below ≠ 0, r.has (below + 1) exponent with
  | true, true => some (roundHalfEven num den)
  | true, false => some below
  | false, true => some (below + 1)
  | false, false => none

def Neighbourhood.shortestFrom (r : Neighbourhood) (top : Int) : Nat → Nat → Nat × Int
  | 0, places => (roundHalfEven r.num r.den, top - places)
  | fuel + 1, places =>
    match r.onGrid? (top - places) with
    | some digits => (digits, top - places)
    | none => r.shortestFrom top fuel (places + 1)

def shortest (mantissa : Nat) (exponent : Int) : Nat × Int :=
  let r := neighbourhood mantissa exponent
  r.shortestFrom (magnitude r.num r.den) 17 1

def withoutZeros : Nat → Nat → Int → Nat × Int
  | 0, digits, exponent => (digits, exponent)
  | fuel + 1, digits, exponent =>
    if digits ≠ 0 ∧ digits % 10 = 0 then withoutZeros fuel (digits / 10) (exponent + 1)
    else (digits, exponent)

def positional (digits : String) (point : Int) : String :=
  let n := digits.length
  if point ≤ 0 then "0." ++ String.ofList (List.replicate point.natAbs '0') ++ digits
  else if (n : Int) ≤ point then
    digits ++ String.ofList (List.replicate (point.natAbs - n) '0') ++ ".0"
  else String.ofList (digits.toList.take point.natAbs) ++ "." ++
    String.ofList (digits.toList.drop point.natAbs)

def scientific (digits : String) (point : Int) : String :=
  let lead := String.ofList (digits.toList.take 1)
  let rest := String.ofList (digits.toList.drop 1)
  lead ++ (if rest.isEmpty then "" else "." ++ rest) ++ "e" ++ toString (point - 1)

def shortestText (x : Float) : String :=
  let sign := if x.toBits.toNat < Nat.pow 2 63 then "" else "-"
  let (m, e) := exactParts x
  if m = 0 then sign ++ "0.0"
  else
    let (digits, exponent) := shortest m e
    let (digits, exponent) := withoutZeros 20 digits exponent
    let text := toString digits
    let point := exponent + text.length
    sign ++ if -5 < point ∧ point ≤ 16 then positional text point else scientific text point

end HostProbe.Decimal
