import RecordMirror.Yaml.Literal
import RecordMirror.Yaml.Node
/-!
Reading a YAML document.  The values of nodes are built breadth first: a collection counts as built
at once, and what it holds is built after all that was asked for earlier.  The merge keys of a
mapping are carried out when its turn comes, or earlier for a mapping that merges it, and change the
mapping for good.  Mappings keep the order in which their keys first came, and the last value of a
repeated key wins.
-/

namespace RecordMirror.Yaml

/-- What a text holds: the entries of a mapping, or another value. -/
inductive Document
  | mapping (entries : List (Value × Value))
  | value (v : Value)
deriving DecidableEq, Repr

/-- The state of building the values of a document. -/
structure Builder where
  /-- The nodes as merge keys have changed them. -/
  nodes : Array Node
  /-- The value of each node that has been built. -/
  values : Array (Option Value)
  /-- The collections in the order in which they were first asked for. -/
  collections : Array Nat := #[]
  /-- How many pairs all mappings had at first, which bounds the number of merge keys. -/
  pairCount : Nat
deriving Repr

/-- The number of pairs in all mappings. -/
def countPairs (nodes : Array Node) : Nat :=
  nodes.foldl (fun n node =>
    match node.content with
    | .mapping pairs => n + pairs.length
    | _ => n) 0

/-- Building steps. -/
abbrev Building (α : Type) : Type := StateT Builder (Except Fault) α

namespace Building

/-- Fails because of a node that cannot stand where it does. -/
def refuse {α : Type} : Building α := fun _ => malformed

/-- The node of a number. -/
def node (id : Nat) : Building Node :=
  return ((← get).nodes[id]?).getD default

/-- Changes a node. -/
def changeNode (id : Nat) (change : Node → Node) : Building Unit :=
  modify fun s => { s with nodes := s.nodes.modify id change }

/-- The pairs of a node that has to be a mapping. -/
def pairs (id : Nat) : Building (List (Nat × Nat)) := do
  match (← node id).content with
  | .mapping pairs => return pairs
  | _ => refuse

/-- Sets the pairs of a mapping. -/
def setPairs (id : Nat) (pairs : List (Nat × Nat)) : Building Unit :=
  changeNode id ({ · with content := .mapping pairs })

/-- The first pair whose key has a tag. -/
def firstTagged? (tag : Tag) (pairs : List (Nat × Nat)) : Building (Option (Nat × Nat)) := do
  let nodes := (← get).nodes
  return pairs.find? fun pair => nodes[pair.1]?.any (·.tag == tag)

/-- The text of a node where a scalar is asked for.  A mapping stands for the value of its first
default key, which has no end if that leads back to the mapping. -/
def scalarText (id : Nat) : Nat → Building String
  | 0 => throw (.literal .endless)
  | fuel + 1 => do
    match (← node id).content with
    | .scalar text => return text
    | .sequence _ => refuse
    | .mapping pairs =>
      match ← firstTagged? .default pairs with
      | some (_, value) => scalarText value fuel
      | none => refuse

/-- The value of a node where its tag asks for a scalar. -/
def scalar (id : Nat) (node : Node) : Building Value := do
  if node.tag.isEmpty then refuse
  let text ← scalarText id ((← get).nodes.size + 1)
  match node.tag, node.content with
  | .timestamp, .mapping _ => throw (.literal .mappingForTime)
  | tag, _ => Literal.value id tag text

/-- The value of a node, built when it is first asked for. -/
def value (id : Nat) : Building Value := do
  match (← get).values[id]? with
  | some (some v) => return v
  | _ =>
    let node ← node id
    let v ←
      if node.tag.isCollection then do
        modify fun s => { s with collections := s.collections.push id }
        pure Value.collection
      else scalar id node
    modify fun s => { s with values := s.values.setIfInBounds id (some v) }
    return v

/-- The default keys of a mapping become text. -/
def textKeys (pairs : List (Nat × Nat)) : Building Unit := do
  for (key, _) in pairs do
    changeNode key fun node => if node.tag = .default then { node with tag := .str } else node

/-- Carries out the merge keys of a mapping, given the pairs that earlier ones brought.  What they
bring comes before the other pairs, which thereby win.  Each is taken away before it is carried out,
so a mapping may merge itself. -/
def flatten (id : Nat) (merged : List (Nat × Nat)) : Nat → Building Unit
  | 0 => refuse
  | fuel + 1 => do
    let own ← pairs id
    match ← firstTagged? .merge own with
    | none =>
      textKeys own
      setPairs id (merged ++ own)
    | some (key, source) =>
      setPairs id (own.erase (key, source))
      let sources := match (← node source).content with
        | .sequence items => items
        | _ => [source]
      let brought ← sources.mapM fun source => do
        flatten source [] fuel
        pairs source
      flatten id (merged ++ brought.reverse.flatten) fuel

/-- The key and the value of a pair. -/
def entry (pair : Nat × Nat) : Building (Value × Value) := do
  let key ← value pair.1
  let value ← value pair.2
  return (key, value)

/-- The entries of a mapping after its merge keys.  Collections cannot be keys. -/
def entries (id : Nat) : Building (List (Value × Value)) := do
  flatten id [] ((← get).pairCount + 1)
  (← pairs id).mapM fun pair => do
    let key ← value pair.1
    if key.isKey then return (key, ← value pair.2) else refuse

/-- Builds what a collection holds. -/
def fill (id : Nat) : Building (List (Value × Value)) := do
  let node ← node id
  match node.tag, node.content with
  | .seq, .sequence items =>
    for item in items do
      let _ ← value item
    return []
  | .omap, .sequence items | .pairs, .sequence items =>
    for item in items do
      match ← pairs item with
      | [pair] =>
        let _ ← entry pair
      | _ => refuse
    return []
  | .map, _ | .set, _ => entries id
  | _, _ => refuse

/-- Builds what all collections hold that are not yet filled. -/
def fillFrom (index : Nat) : Nat → Building Unit
  | 0 => return ()
  | fuel + 1 => do
    match (← get).collections[index]? with
    | none => return ()
    | some id =>
      let _ ← fill id
      fillFrom (index + 1) fuel

/-- The document below a root. -/
def document (root : Nat) : Building Document := do
  let v ← value root
  if v.isKey then return .value v
  else
    let entries ← fill root
    fillFrom 1 (← get).nodes.size
    if (← node root).tag = .map then
      return .mapping (entries.foldl (fun list p => Value.insertKey p.1 p.2 list) [])
    else return .value v

end Building

/-- The only document of a text; an empty text holds the absent value. -/
def Document.load (text : String) : Except Fault Document := do
  let (nodes, root) ← compose text
  match root with
  | none => return .value .null
  | some root =>
    (Building.document root).run' {
      nodes := nodes
      values := Array.replicate nodes.size none
      pairCount := countPairs nodes }

end RecordMirror.Yaml
