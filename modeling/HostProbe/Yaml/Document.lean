import HostProbe.Yaml.Node

/-! # From text to value

A tree becomes a value. Lists and mappings are nested at most 128 deep, and aliases are followed at
most a hundred times for each mark of the tree, so that no document grows beyond measure. A mapping
must not give a key twice. A tag that begins with an exclamation mark stays on its value; a tag of
the core schema says how a scalar is read. -/

namespace HostProbe.Yaml

def depthLimit : Nat := 128

def aliasLimit : Nat := 100

def withTag (tag : Option Tag) (value : Value) : Value :=
  match tag with
  | some (.kept name) => .tagged name value
  | _ => value

def bareScalar? (plain : Bool) (text : String) : Option Value :=
  if plain then plainValue? text else some (.text text)

def scalar? (tag : Option Tag) (plain : Bool) (text : String) : Option Value :=
  match tag with
  | none => bareScalar? plain text
  | some (.kept name) => (bareScalar? plain text).map (.tagged name)
  | some (.schema name) => coreTagged? name text

def distinct? : List (Value × Value) → Option Entries
  | [] => some []
  | (k, v) :: rest =>
    if rest.any fun e => e.1.same k then none else (distinct? rest).map ((k, v) :: ·)

/-- Follows an alias, as long as the limit allows; `anchors` are the anchored nodes, the last one of
a number being the one that counts. -/
def target (anchors : List (Nat × Option Tag × Body)) :
    Node → StateT Nat Option (Option Tag × Body)
  | .content _ tag body => pure (tag, body)
  | .alias id => do
    let left ← get
    match left, anchors.reverse.lookup id with
    | n + 1, some (tag, body) =>
      set n
      return (tag, body)
    | _, _ => failure

def valueOf (anchors : List (Nat × Option Tag × Body)) : Nat → Node → StateT Nat Option Value
  | 0, node => do
    match ← target anchors node with
    | (tag, .scalar plain text) => scalar? tag plain text
    | _ => failure
  | depth + 1, node => do
    let (tag, body) ← target anchors node
    match body with
    | .scalar plain text => scalar? tag plain text
    | .list items =>
      let values ← items.mapM (valueOf anchors depth)
      return withTag tag (.list values)
    | .mapping entries =>
      let pairs ← entries.mapM fun (k, v) => do
        return (← valueOf anchors depth k, ← valueOf anchors depth v)
      let entries ← distinct? pairs
      return withTag tag (.mapping entries)

def Value.ofNode? (root : Node) : Option Value :=
  (valueOf root.anchored depthLimit root (aliasLimit * root.size)).map (·.1)

def Value.parse? (text : String) : Option Value := do
  let tokens ← tokens? text
  let root ← Node.ofTokens? tokens
  ofNode? root

end HostProbe.Yaml
