import HostProbe.Text.CharSet

/-! # Integers in decimal

An integer is an optional sign and at least one ASCII digit; leading zeros are allowed, and a value
outside the range of the type is refused. -/

namespace HostProbe.Decimal

open HostProbe.Text

def ofDigits (s : List Char) : Nat := s.foldl (fun n c => n * 10 + digitValue c) 0

def readNat? (s : List Char) : Option Nat :=
  if s ≠ [] ∧ s.all isAsciiDigit then some (ofDigits s) else none

def readBelow? (bound : Nat) (s : List Char) : Option Nat :=
  let digits := match s with
    | '+' :: r => r
    | _ => s
  match readNat? digits with
  | some n => if n < bound then some n else none
  | none => none

def readSigned? (bound : Nat) (s : List Char) : Option Int :=
  match s with
  | '-' :: r =>
    match readNat? r with
    | some n => if n ≤ bound then some (-n) else none
    | none => none
  | _ => (readBelow? bound s).map Int.ofNat

def readUInt64? (s : List Char) : Option UInt64 := (readBelow? UInt64.size s).map UInt64.ofNat

end HostProbe.Decimal
