import HostProbe.Os.Basic

/-! # Variants by distribution family

What differs between families is kept as data: a table of one tool has an entry for each family that
is treated specially, and possibly one for all others. -/

namespace HostProbe

structure Variant (α : Type) where
  family : OsFamily
  name : String
  hooks : α
  deriving Repr

structure VariantTable (α : Type) where
  tool : String
  entries : List (Variant α)
  fallback : Option (Variant α)
  deriving Repr

namespace VariantTable

variable {α : Type}

def select (t : VariantTable α) (os : Os) : Except Fault (Variant α) :=
  match (t.entries.find? fun v => v.family == os.family).orElse fun _ => t.fallback with
  | some v => .ok v
  | none => .error (os.unsupported
      (t.tool ++ " has no variant for the " ++ os.family.text ++ " family"))

def families (t : VariantTable α) : List OsFamily := t.entries.map (·.family)

end VariantTable

end HostProbe
