import HostProbe.Yaml.Tag
import HostProbe.Yaml.Token.Scanner

/-! # The tree of a document

Tokens make a tree of scalars, lists and mappings. A node may have a tag and an anchor; an alias
stands for the node with its anchor. Anchors are numbered: a name gets the number of different names
before it, so a name that is given again shares its number with the next new one, and an alias
stands for the last node of its number.

The reading functions are given fuel for every token that can open or close something. -/

namespace HostProbe.Yaml

mutual

inductive Node where
  | alias (id : Nat)
  | content (id : Option Nat) (tag : Option Tag) (body : Body)

inductive Body where
  | scalar (plain : Bool) (text : String)
  | list (items : List Node)
  | mapping (entries : List (Node × Node))

end

instance : Inhabited Node := ⟨.alias 0⟩

namespace Node

def empty : Node := .content none none (.scalar true "")

mutual

def size : Node → Nat
  | .alias _ => 1
  | .content _ _ body => bodySize body

def bodySize : Body → Nat
  | .scalar _ _ => 1
  | .list items => itemsSize items + 2
  | .mapping entries => entriesSize entries + 2

def itemsSize : List Node → Nat
  | [] => 0
  | n :: rest => size n + itemsSize rest

def entriesSize : List (Node × Node) → Nat
  | [] => 0
  | (k, v) :: rest => size k + size v + entriesSize rest

end

mutual

def anchored : Node → List (Nat × Option Tag × Body)
  | .alias _ => []
  | .content id tag body => (id.map fun i => (i, tag, body)).toList ++ bodyAnchored body

def bodyAnchored : Body → List (Nat × Option Tag × Body)
  | .scalar _ _ => []
  | .list items => itemsAnchored items
  | .mapping entries => entriesAnchored entries

def itemsAnchored : List Node → List (Nat × Option Tag × Body)
  | [] => []
  | n :: rest => anchored n ++ itemsAnchored rest

def entriesAnchored : List (Node × Node) → List (Nat × Option Tag × Body)
  | [] => []
  | (k, v) :: rest => anchored k ++ anchored v ++ entriesAnchored rest

end

structure Reading where
  tokens : List Token
  handles : List (String × List UInt8)
  anchors : List (String × Nat)

abbrev Reads := StateT Reading Option

def next? : Reads (Option Token) := do return (← get).tokens.head?

def skip : Reads Unit := modify fun r => { r with tokens := r.tokens.drop 1 }

def nextIn (ts : List Token) : Reads Bool := do return (← next?).any ts.contains

def register (name : String) : Reads Nat := do
  let anchors := (← get).anchors
  let id := anchors.length
  let anchors := if anchors.any (·.1 == name) then
      anchors.map fun (n, i) => if n == name then (n, id) else (n, i)
    else anchors ++ [(name, id)]
  modify fun r => { r with anchors }
  return id

def numberOf (name : String) : Reads Nat := do
  match (← get).anchors.lookup name with
  | some id => return id
  | none => failure

def fullTag (handle : String) (rest : List UInt8) : Reads (List UInt8) := do
  if handle.isEmpty then return rest
  else match (← get).handles.lookup handle with
    | some start => return start ++ rest
    | none => failure

def properties : Reads (Option Nat × Option (List UInt8)) := do
  match ← next? with
  | some (.anchor name) =>
    skip
    match ← next? with
    | some (.tag handle rest) =>
      skip
      let tag ← fullTag handle rest
      return (some (← register name), some tag)
    | _ => return (some (← register name), none)
  | some (.tag handle rest) =>
    skip
    let tag ← fullTag handle rest
    match ← next? with
    | some (.anchor name) =>
      skip
      return (some (← register name), some tag)
    | _ => return (none, some tag)
  | _ => return (none, none)

mutual

/-- A node. Only a node of a block may open a block; the value of a key may be a list whose dashes
are not further right than the key. -/
def node (block dashes : Bool) : Nat → Reads Node
  | 0 => failure
  | fuel + 1 => do
    match ← next? with
    | some (.alias name) =>
      skip
      return .alias (← numberOf name)
    | _ =>
      let (id, bytes) ← properties
      let tag := bytes.bind Tag.ofBytes?
      let next ← next?
      match next with
      | some (.scalar plain text) =>
        skip
        return .content id tag (.scalar plain text)
      | some .flowListStart =>
        skip
        return .content id tag (.list (← flowItems true fuel))
      | some .flowMappingStart =>
        skip
        return .content id tag (.mapping (← flowEntries true fuel))
      | _ =>
        if dashes ∧ next = some .blockEntry then
          return .content id tag (.list (← dashedItems fuel))
        else if block ∧ next = some .blockListStart then
          skip
          return .content id tag (.list (← blockItems fuel))
        else if block ∧ next = some .blockMappingStart then
          skip
          return .content id tag (.mapping (← blockEntries fuel))
        else if id.isSome ∨ bytes.isSome then return .content id tag (.scalar true "")
        else failure

def nodeUnless (ends : List Token) (block dashes : Bool) : Nat → Reads Node
  | 0 => failure
  | fuel + 1 => do if ← nextIn ends then return empty else node block dashes fuel

def blockItems : Nat → Reads (List Node)
  | 0 => failure
  | fuel + 1 => do
    match ← next? with
    | some .blockEntry =>
      skip
      let item ← nodeUnless [.blockEntry, .blockEnd] true false fuel
      return item :: (← blockItems fuel)
    | some .blockEnd =>
      skip
      return []
    | _ => failure

def dashedItems : Nat → Reads (List Node)
  | 0 => failure
  | fuel + 1 => do
    match ← next? with
    | some .blockEntry =>
      skip
      let item ← nodeUnless [.blockEntry, .key, .value, .blockEnd] true false fuel
      return item :: (← dashedItems fuel)
    | _ => return []

def blockEntries : Nat → Reads (List (Node × Node))
  | 0 => failure
  | fuel + 1 => do
    match ← next? with
    | some .key =>
      skip
      let key ← nodeUnless [.key, .value, .blockEnd] true true fuel
      let value ← valueUnless [.key, .value, .blockEnd] true fuel
      return (key, value) :: (← blockEntries fuel)
    | some .blockEnd =>
      skip
      return []
    | _ => failure

def valueUnless (ends : List Token) (block : Bool) : Nat → Reads Node
  | 0 => failure
  | fuel + 1 => do
    if ← nextIn [.value] then
      skip
      nodeUnless ends block block fuel
    else return empty

def flowItems (first : Bool) : Nat → Reads (List Node)
  | 0 => failure
  | fuel + 1 => do
    if ← nextIn [.flowListEnd] then
      skip
      return []
    else
      if !first then
        if ← nextIn [.flowEntry] then skip else failure
      match ← next? with
      | some .flowListEnd =>
        skip
        return []
      | some .key =>
        skip
        let entry ← flowPair fuel
        return .content none none (.mapping [entry]) :: (← flowItems false fuel)
      | _ =>
        let item ← node false false fuel
        return item :: (← flowItems false fuel)

def flowPair : Nat → Reads (Node × Node)
  | 0 => failure
  | fuel + 1 => do
    let key ← if ← nextIn [.value, .flowEntry, .flowListEnd] then do
        skip
        pure empty
      else node false false fuel
    return (key, ← valueUnless [.flowEntry, .flowListEnd] false fuel)

def flowEntries (first : Bool) : Nat → Reads (List (Node × Node))
  | 0 => failure
  | fuel + 1 => do
    if ← nextIn [.flowMappingEnd] then
      skip
      return []
    else
      if !first then
        if ← nextIn [.flowEntry] then skip else failure
      match ← next? with
      | some .flowMappingEnd =>
        skip
        return []
      | some .key =>
        skip
        let key ← nodeUnless [.value, .flowEntry, .flowMappingEnd] false false fuel
        let value ← valueUnless [.flowEntry, .flowMappingEnd] false fuel
        return (key, value) :: (← flowEntries false fuel)
      | _ =>
        let key ← node false false fuel
        return (key, empty) :: (← flowEntries false fuel)

end

def commonHandles : List (String × List UInt8) :=
  [("!", [Tag.mark]), ("!!", "tag:yaml.org,2002:".toUTF8.toList)]

/-- The directives before the mark of a document: at most one version, which has to be 1.1 or 1.2,
and each handle once. -/
def directives (versioned : Bool) (handles : List (String × List UInt8)) :
    List Token → Option (List (String × List UInt8) × List Token)
  | .version major minor :: rest =>
    if !versioned ∧ major = 1 ∧ (minor = 1 ∨ minor = 2) then directives true handles rest else none
  | .tagHandle handle start :: rest =>
    if handles.any (·.1 == handle) then none
    else directives versioned (handles ++ [(handle, start)]) rest
  | .documentStart :: rest => some (handles, rest)
  | _ => none

def isVoid : List Token → Bool
  | [] => true
  | .version _ _ :: _ => true
  | .tagHandle _ _ :: _ => true
  | .documentStart :: _ => true
  | .documentEnd :: _ => true
  | _ => false

def announces : Token → Bool
  | .version _ _ => true
  | .tagHandle _ _ => true
  | .documentStart => true
  | _ => false

def ofTokens? (tokens : List Token) : Option Node := do
  let announced := tokens.head?.any announces
  let (handles, rest) ← if announced then directives false [] tokens else some ([], tokens)
  if isVoid rest ∧ (announced ∨ tokens.isEmpty) then
    if rest.all (· == .documentEnd) then some empty else none
  else
    let (root, reading) ← node true false (4 * rest.length + 4) ⟨rest, handles ++ commonHandles, []⟩
    if reading.tokens.all (· == .documentEnd) then some root else none

end Node

end HostProbe.Yaml
