/-! # Values of YAML documents

A document is a value: a scalar, a list, a mapping in the order of its keys, or one of these under a
tag. Keys are values of any kind. A floating-point number is kept as its bits, so that two values
can be compared: all values that are no number are the same, and so are the two zeros. -/

namespace HostProbe.Yaml

inductive Value where
  | null
  | bool (b : Bool)
  | int (n : Int)
  | float (bits : UInt64)
  | text (s : String)
  | list (items : List Value)
  | mapping (entries : List (Value × Value))
  | tagged (tag : String) (value : Value)
  deriving Inhabited, Repr

abbrev Entries := List (Value × Value)

def isNaNBits (bits : UInt64) : Bool := bits &&& 0x7FFFFFFFFFFFFFFF > 0x7FF0000000000000

def isZeroBits (bits : UInt64) : Bool := bits &&& 0x7FFFFFFFFFFFFFFF == 0

def sameFloat (a b : UInt64) : Bool :=
  a == b || (isNaNBits a && isNaNBits b) || (isZeroBits a && isZeroBits b)

namespace Value

mutual

def same : Value → Value → Bool
  | .null, .null => true
  | .bool a, .bool b => a == b
  | .int a, .int b => a == b
  | .float a, .float b => sameFloat a b
  | .text a, .text b => a == b
  | .list a, .list b => sameItems a b
  | .mapping a, .mapping b => a.length == b.length && sameEntries a b
  | .tagged s a, .tagged t b => s == t && same a b
  | _, _ => false

def sameItems : List Value → List Value → Bool
  | [], [] => true
  | a :: as, b :: bs => same a b && sameItems as bs
  | _, _ => false

def sameEntries : List (Value × Value) → List (Value × Value) → Bool
  | [], _ => true
  | (k, v) :: rest, bs => bs.any (fun e => same k e.1 && same v e.2) && sameEntries rest bs

end

def untagged : Value → Value
  | .tagged _ v => v.untagged
  | v => v

def isMapping (v : Value) : Bool :=
  match v.untagged with
  | .mapping _ => true
  | _ => false

def isNull (v : Value) : Bool :=
  match v.untagged with
  | .null => true
  | _ => false

end Value

namespace Entries

def find? (key : Value) (es : Entries) : Option Value :=
  (List.find? (fun e => e.1.same key) es).map (·.2)

def replace (key value : Value) : Entries → Entries
  | [] => []
  | (k, v) :: rest => if k.same key then (k, value) :: rest else (k, v) :: replace key value rest

def insert (key value : Value) (es : Entries) : Entries :=
  match find? key es with
  | some _ => replace key value es
  | none => es ++ [(key, value)]

def ofPairs (es : List (Value × Value)) : Entries :=
  es.foldl (fun acc e => insert e.1 e.2 acc) []

end Entries

end HostProbe.Yaml
