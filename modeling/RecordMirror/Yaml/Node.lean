import RecordMirror.Yaml.Scan
import RecordMirror.Yaml.Spelling
/-!
The nodes of a YAML document, and composing them from tokens.  Nodes are known by number, and an
alias is the number of the node it stands for, so a node may be shared or hold itself.
-/

namespace RecordMirror.Yaml

/-- What a node holds: a text, or the numbers of other nodes. -/
inductive Content
  | scalar (text : String)
  | sequence (items : List Nat)
  | mapping (pairs : List (Nat × Nat))
deriving DecidableEq, Repr

/-- A node of a document. -/
structure Node where
  tag : Tag
  content : Content
deriving DecidableEq, Repr

instance : Inhabited Node := ⟨⟨.null, .scalar ""⟩⟩

/-- What composing keeps from one node to the next. -/
structure Composer where
  /-- The tokens that are left, and the fault after the last one, if the scan ended in one. -/
  scanned : Scanned
  /-- The nodes so far.  A collection that is still open holds nothing. -/
  nodes : Array Node := #[]
  anchors : List (String × Nat) := []
  /-- The tag handles and the addresses they stand for. -/
  handles : List (String × String) := [("!", "!"), ("!!", tagPrefix)]

/-- Composing steps. -/
abbrev Compose (α : Type) : Type := StateT Composer (Except Fault) α

namespace Compose

/-- Fails because of a token that cannot stand where it does. -/
def refuse {α : Type} : Compose α := fun _ => malformed

/-- The next token.  Asking for one after the last that could be told meets the fault there. -/
def peek : Compose (Option Token) := fun s =>
  match s.scanned.tokens, s.scanned.fault with
  | t :: _, _ => .ok (some t, s)
  | [], none => .ok (none, s)
  | [], some fault => .error fault

/-- Goes past the next token. -/
def advance : Compose Unit :=
  modify fun s => { s with scanned := { s.scanned with tokens := s.scanned.tokens.drop 1 } }

/-- Whether the next token is one of the given ones. -/
def isNext (tokens : List Token) : Compose Bool :=
  return (← peek).any tokens.contains

/-- Goes past the next token if it is the given one. -/
def skipIf (t : Token) : Compose Bool := do
  if ← isNext [t] then
    advance
    return true
  else return false

/-- The anchor before a node, if the next token is one. -/
def anchor? : Compose (Option String) := do
  match ← peek with
  | some (.anchor name) =>
    advance
    return some name
  | _ => return none

/-- The handle and the rest of the tag before a node, if the next token is one. -/
def tag? : Compose (Option (Option String × String)) := do
  match ← peek with
  | some (.tag handle suffix) =>
    advance
    return some (handle, suffix)
  | _ => return none

/-- The full name of a tag. -/
def fullName (handle : Option String) (suffix : String) : Compose String := do
  match handle with
  | none => return suffix
  | some handle =>
    match (← get).handles.lookup handle with
    | some address => return address ++ suffix
    | none => refuse

/-- The anchor and the tag before a node, in either order.  The tag is named in full after both are
read. -/
def properties : Compose (Option String × Option String) := do
  let first ← anchor?
  let tag ← tag?
  let anchor ← if first.isNone && tag.isSome then anchor? else pure first
  match tag with
  | none => return (anchor, none)
  | some (handle, suffix) => return (anchor, some (← fullName handle suffix))

/-- The node an alias stands for. -/
def aliased (name : String) : Compose Nat := do
  match (← get).anchors.lookup name with
  | some id => return id
  | none => refuse

/-- Adds a node, with an anchor that is not given twice. -/
def add (anchor : Option String) (node : Node) : Compose Nat := do
  let s ← get
  let id := s.nodes.size
  match anchor with
  | none => set { s with nodes := s.nodes.push node }
  | some name =>
    if (s.anchors.lookup name).isSome then refuse
    else set { s with nodes := s.nodes.push node, anchors := (name, id) :: s.anchors }
  return id

/-- Adds the node that stands where nothing is written. -/
def absent : Compose Nat :=
  add none ⟨.null, .scalar ""⟩

/-- Gives an open collection what it holds. -/
def fill (id : Nat) (content : Content) : Compose Unit :=
  modify fun s => { s with nodes := s.nodes.modify id ({ · with content := content }) }

/-- The tag of a collection. -/
def collectionTag (tag : Option String) (fallback : Tag) : Tag :=
  match tag with
  | none => fallback
  | some "!" => fallback
  | some name => Tag.ofName name

/-- The tag of a scalar.  Without a tag, or with the tag that asks for it, a plain scalar has the
tag of its spelling. -/
def scalarTag (tag : Option String) (plain : Bool) (text : String) : Tag :=
  match tag with
  | none => if plain then implicitTag text else .str
  | some "!" => implicitTag text
  | some name => Tag.ofName name

mutual

/-- Composes a node.  Blocks begin only where `block` says so; a sequence that is the value of a
key may stand without indentation of its own. -/
def node (block indentless : Bool) : Nat → Compose Nat
  | 0 => refuse
  | fuel + 1 => do
    match ← peek with
    | some (.alias name) =>
      advance
      aliased name
    | _ =>
      let (anchor, tag) ← properties
      let next ← peek
      let sequence := add anchor ⟨collectionTag tag .seq, .sequence []⟩
      let mapping := add anchor ⟨collectionTag tag .map, .mapping []⟩
      match next with
      | some (.scalar plain text) =>
        advance
        add anchor ⟨scalarTag tag plain text, .scalar text⟩
      | some .flowSequenceStart =>
        let id ← sequence
        advance
        fill id (.sequence (← flowItems true fuel))
        return id
      | some .flowMappingStart =>
        let id ← mapping
        advance
        fill id (.mapping (← flowPairs true fuel))
        return id
      | _ =>
        if indentless && next == some .blockEntry then
          let id ← sequence
          fill id (.sequence (← indentlessItems fuel))
          return id
        else if block && next == some .blockSequenceStart then
          let id ← sequence
          advance
          fill id (.sequence (← blockItems fuel))
          return id
        else if block && next == some .blockMappingStart then
          let id ← mapping
          advance
          fill id (.mapping (← blockPairs fuel))
          return id
        else if anchor.isSome || tag.isSome then add anchor ⟨scalarTag tag true "", .scalar ""⟩
        else refuse

/-- Composes a node unless one of the given tokens comes next. -/
def nodeUnless (ends : List Token) (block indentless : Bool) : Nat → Compose Nat
  | 0 => refuse
  | fuel + 1 => do
    if ← isNext ends then absent else node block indentless fuel

/-- Composes the items of a block sequence up to its end. -/
def blockItems : Nat → Compose (List Nat)
  | 0 => refuse
  | fuel + 1 => do
    if ← skipIf .blockEntry then
      let item ← nodeUnless [.blockEntry, .blockEnd] true false fuel
      return item :: (← blockItems fuel)
    else if ← skipIf .blockEnd then return []
    else refuse

/-- Composes the items of a sequence without indentation of its own. -/
def indentlessItems : Nat → Compose (List Nat)
  | 0 => refuse
  | fuel + 1 => do
    if ← skipIf .blockEntry then
      let item ← nodeUnless [.blockEntry, .key, .value, .blockEnd] true false fuel
      return item :: (← indentlessItems fuel)
    else return []

/-- Composes the pairs of a block mapping up to its end. -/
def blockPairs : Nat → Compose (List (Nat × Nat))
  | 0 => refuse
  | fuel + 1 => do
    if ← skipIf .key then
      let key ← nodeUnless [.key, .value, .blockEnd] true true fuel
      let value ← if ← skipIf .value then nodeUnless [.key, .value, .blockEnd] true true fuel
        else absent
      return (key, value) :: (← blockPairs fuel)
    else if ← skipIf .blockEnd then return []
    else refuse

/-- Composes the items of a flow sequence up to its end.  A pair among them is a mapping of its
own. -/
def flowItems (first : Bool) : Nat → Compose (List Nat)
  | 0 => refuse
  | fuel + 1 => do
    if ← skipIf .flowSequenceEnd then return []
    else
      let separated ← if first then pure true else skipIf .flowEntry
      if !separated then refuse
      else if ← skipIf .key then
        let key ← nodeUnless [.value, .flowEntry, .flowSequenceEnd] false false fuel
        let value ← if ← skipIf .value then
            nodeUnless [.flowEntry, .flowSequenceEnd] false false fuel
          else absent
        let item ← add none ⟨.map, .mapping [(key, value)]⟩
        return item :: (← flowItems false fuel)
      else if ← skipIf .flowSequenceEnd then return []
      else
        let item ← node false false fuel
        return item :: (← flowItems false fuel)

/-- Composes the pairs of a flow mapping up to its end. -/
def flowPairs (first : Bool) : Nat → Compose (List (Nat × Nat))
  | 0 => refuse
  | fuel + 1 => do
    if ← skipIf .flowMappingEnd then return []
    else
      let separated ← if first then pure true else skipIf .flowEntry
      if !separated then refuse
      else if ← skipIf .key then
        let key ← nodeUnless [.value, .flowEntry, .flowMappingEnd] false false fuel
        let value ← if ← skipIf .value then
            nodeUnless [.flowEntry, .flowMappingEnd] false false fuel
          else absent
        return (key, value) :: (← flowPairs false fuel)
      else if ← skipIf .flowMappingEnd then return []
      else
        let key ← node false false fuel
        return (key, ← absent) :: (← flowPairs false fuel)

end

/-- Reads the directives before a document: their tag handles.  The version is given at most once
and is a version of YAML 1, and a tag handle is given at most once. -/
def directives (versioned : Bool) (handles : List (String × String)) :
    Nat → Compose (List (String × String))
  | 0 => refuse
  | fuel + 1 => do
    match ← peek with
    | some (.version major) =>
      if versioned || major != 1 then refuse
      else
        advance
        directives true handles fuel
    | some (.tagHandle handle address) =>
      if (handles.lookup handle).isSome then refuse
      else
        advance
        directives versioned ((handle, address) :: handles) fuel
    | some .directive =>
      advance
      directives versioned handles fuel
    | _ => return handles

/-- Goes past all marks of the end of a document. -/
def skipEnds : Compose Unit :=
  modify fun s =>
    { s with scanned := { s.scanned with
        tokens := s.scanned.tokens.dropWhile (· == .documentEnd) } }

/-- Whether a token is a directive. -/
def isDirective : Token → Bool
  | .version _ => true
  | .tagHandle _ _ => true
  | .directive => true
  | _ => false

/-- Goes past the directives and the mark before a document, if there is one; whether there is. -/
def openDocument (fuel : Nat) : Compose Bool := do
  skipEnds
  match ← peek with
  | none => return false
  | some _ =>
    let given ← directives false [] fuel
    modify fun s => { s with handles := given ++ s.handles }
    if ← skipIf .documentStart then return true else refuse

/-- Composes the document after its mark. -/
def content (fuel : Nat) : Compose Nat := do
  match ← peek with
  | none => absent
  | some t =>
    if isDirective t || t == .documentStart || t == .documentEnd then absent
    else node true false fuel

/-- Composes the only document of a text, if there is one.  A second one is refused at its mark. -/
def document (fuel : Nat) : Compose (Option Nat) := do
  let root ← match ← peek with
    | none => pure none
    | some t =>
      if isDirective t || t == .documentStart then
        if ← openDocument fuel then some <$> content fuel else pure none
      else some <$> node true false fuel
  if ← openDocument fuel then refuse else return root

end Compose

/-- The nodes of the only document of a text and the number of its root, if there is one. -/
def compose (text : String) : Except Fault (Array Node × Option Nat) := do
  let scanned := scan text
  let (root, s) ← (Compose.document (4 * scanned.tokens.length + 8)).run { scanned := scanned }
  return (s.nodes, root)

end RecordMirror.Yaml
