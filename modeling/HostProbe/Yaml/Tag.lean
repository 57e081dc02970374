import HostProbe.Text.Utf8

/-! # Tags

A tag that begins with an exclamation mark stays on the value of its node. Any other tag belongs to
a schema and says how a scalar is read. Escapes can give a tag any bytes; one that begins with the
mark and is no text counts for nothing. -/

namespace HostProbe.Yaml

open HostProbe.Text

inductive Tag where
  | kept (name : String)
  | schema (name : String)
  deriving DecidableEq, Repr, Inhabited

namespace Tag

def mark : UInt8 := 0x21

def bareName (bytes : List UInt8) : List UInt8 :=
  match bytes with
  | b :: c :: rest => if b = mark then c :: rest else bytes
  | _ => bytes

def ofBytes? (bytes : List UInt8) : Option Tag :=
  if bytes.head? = some mark then (decode? (bareName (bareName bytes))).map .kept
  else some (.schema (decodeLossy bytes))

end Tag

end HostProbe.Yaml
