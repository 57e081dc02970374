import HostProbe.Decimal.Binary64
import HostProbe.Yaml.Value

/-! # Scalars

A scalar without quotes and without a tag is a null, a truth value, an integer, a floating-point
number or, if it is written like none of these, a text. Integers have 64 bits; one that needs up to
128 is refused, a longer one is a floating-point number. -/

namespace HostProbe.Yaml

open HostProbe.Text HostProbe.Decimal

def digitIn? (radix : Nat) (c : Char) : Option Nat :=
  let n := if isAsciiDigit c then digitValue c
    else if 'a' ≤ c ∧ c ≤ 'f' then c.toNat - 'a'.toNat + 10
    else if 'A' ≤ c ∧ c ≤ 'F' then c.toNat - 'A'.toNat + 10
    else 16
  if n < radix then some n else none

def digitsIn? (radix : Nat) (s : List Char) : Option Nat :=
  if s.isEmpty then none
  else (s.mapM (digitIn? radix)).map fun ds => ds.foldl (fun n d => n * radix + d) 0

def marked? : List Char → Option Nat
  | '0' :: 'x' :: s => digitsIn? 16 s
  | '0' :: 'o' :: s => digitsIn? 8 s
  | '0' :: 'b' :: s => digitsIn? 2 s
  | _ => none

def hasLeadingZero (s : List Char) : Bool :=
  match (readSign s).2 with
  | '0' :: c :: rest => (c :: rest).all isAsciiDigit
  | _ => false

def integer? (s : List Char) : Option Int :=
  match s with
  | '-' :: r =>
    match marked? r with
    | some n => some (-n)
    | none => if hasLeadingZero s then none else (readNat? r).map fun n => -(n : Int)
  | _ =>
    let r := match s with
      | '+' :: r => r
      | _ => s
    match marked? r with
    | some n => some n
    | none => if hasLeadingZero s then none else (readNat? r).map fun n => (n : Int)

def nanBits : UInt64 := 0x7FF8000000000000

def floating? (s : List Char) : Option UInt64 :=
  let r := match s with
    | '+' :: r => r
    | _ => s
  if String.ofList r ∈ [".inf", ".Inf", ".INF"] then some 0x7FF0000000000000
  else if String.ofList s ∈ ["-.inf", "-.Inf", "-.INF"] then some 0xFFF0000000000000
  else if String.ofList s ∈ [".nan", ".NaN", ".NAN"] then some nanBits
  else if s.head? = some '+' ∧ (r.head? = some '+' ∨ r.head? = some '-') then none
  else match readFloat? r with
    | some x => if x.isFinite then some x.toBits else none
    | none => none

inductive IntegerClass where
  | value (n : Int)
  | tooLarge
  | none
  deriving DecidableEq, Repr

def integerClass (s : List Char) : IntegerClass :=
  match integer? s with
  | some n =>
    if -(Nat.pow 2 63 : Int) ≤ n ∧ n < Nat.pow 2 64 then .value n
    else if -(Nat.pow 2 127 : Int) ≤ n ∧ n < Nat.pow 2 128 then .tooLarge
    else .none
  | none => .none

def truth? (s : String) : Option Bool :=
  if s ∈ ["true", "True", "TRUE"] then some true
  else if s ∈ ["false", "False", "FALSE"] then some false
  else none

def isNullText (s : String) : Bool := s ∈ ["null", "Null", "NULL", "~"]

def plainValue? (s : String) : Option Value :=
  if s.isEmpty || isNullText s then some .null
  else match truth? s with
    | some b => some (.bool b)
    | none =>
      match integerClass s.toList with
      | .value n => some (.int n)
      | .tooLarge => none
      | .none =>
        if hasLeadingZero s.toList then some (.text s)
        else match floating? s.toList with
          | some bits => some (.float bits)
          | none => some (.text s)

def coreTagged? (tag s : String) : Option Value :=
  if tag = "tag:yaml.org,2002:bool" then (truth? s).map .bool
  else if tag = "tag:yaml.org,2002:int" then
    match integerClass s.toList with
    | .value n => some (.int n)
    | _ => none
  else if tag = "tag:yaml.org,2002:float" then (floating? s.toList).map .float
  else if tag = "tag:yaml.org,2002:null" then if isNullText s then some .null else none
  else some (.text s)

end HostProbe.Yaml
