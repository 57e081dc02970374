/-! # Reading bytes as UTF-8

Output of a command is shown even if it is not valid UTF-8: each maximal part that cannot be
continued to a character becomes one replacement character. A configuration file has to be valid
throughout. -/

namespace HostProbe.Text

def replacement : Char := Char.ofNat 0xFFFD

def isContinuation (b : UInt8) : Bool := 0x80 ≤ b && b ≤ 0xBF

def followers (b : UInt8) : Option (Nat × UInt8 × UInt8) :=
  if 0xC2 ≤ b && b ≤ 0xDF then some (1, 0x80, 0xBF)
  else if b = 0xE0 then some (2, 0xA0, 0xBF)
  else if b = 0xED then some (2, 0x80, 0x9F)
  else if 0xE1 ≤ b && b ≤ 0xEF then some (2, 0x80, 0xBF)
  else if b = 0xF0 then some (3, 0x90, 0xBF)
  else if 0xF1 ≤ b && b ≤ 0xF3 then some (3, 0x80, 0xBF)
  else if b = 0xF4 then some (3, 0x80, 0x8F)
  else none

def leadBits (n : Nat) (b : UInt8) : Nat :=
  if n = 1 then b.toNat % 32 else if n = 2 then b.toNat % 16 else b.toNat % 8

def continueBits : Nat → Nat → List UInt8 → Nat × Nat
  | 0, acc, _ => (0, acc)
  | _ + 1, acc, [] => (0, acc)
  | n + 1, acc, b :: bs =>
    if isContinuation b then
      let (k, v) := continueBits n (acc * 64 + b.toNat % 64) bs
      (k + 1, v)
    else (0, acc)

def readChar (b : UInt8) (rest : List UInt8) : Option Char × Nat :=
  if b < 0x80 then (some (Char.ofNat b.toNat), 0)
  else match followers b, rest with
    | none, _ => (none, 0)
    | some _, [] => (none, 0)
    | some (n, low, high), c :: cs =>
      if low ≤ c && c ≤ high then
        let (k, v) := continueBits (n - 1) (leadBits n b * 64 + c.toNat % 64) cs
        if k + 1 = n then (some (Char.ofNat v), n) else (none, k + 1)
      else (none, 0)

def readChars : List UInt8 → List (Option Char)
  | [] => []
  | b :: rest => (readChar b rest).1 :: readChars (rest.drop (readChar b rest).2)
termination_by bs => bs.length
decreasing_by
  rw [List.length_drop, List.length_cons]
  omega

def decodeLossy (bytes : List UInt8) : String :=
  String.ofList ((readChars bytes).map (·.getD replacement))

def decode? (bytes : List UInt8) : Option String :=
  ((readChars bytes).mapM id).map String.ofList

end HostProbe.Text
