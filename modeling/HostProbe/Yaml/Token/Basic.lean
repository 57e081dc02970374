/-! # Tokens of YAML

The marks and scalars of a document in order. Where blocks begin and end shows in the text only by
indentation; here it is a token of its own. -/

namespace HostProbe.Yaml

inductive Token where
  | version (major minor : Nat)
  | tagHandle (handle : String) (start : List UInt8)
  | documentStart
  | documentEnd
  | blockListStart
  | blockMappingStart
  | blockEnd
  | flowListStart
  | flowListEnd
  | flowMappingStart
  | flowMappingEnd
  | blockEntry
  | flowEntry
  | key
  | value
  | alias (name : String)
  | anchor (name : String)
  | tag (handle : String) (rest : List UInt8)
  | scalar (plain : Bool) (text : String)
  deriving DecidableEq, Repr, Inhabited

end HostProbe.Yaml
