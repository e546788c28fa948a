import RecordMirror.Text.Quoted
/-!
Paths: names of files, from the root or from where the reader stands.  A path keeps its steps up
(`..`) but has no empty parts and no steps to the same place.
-/

namespace RecordMirror

/-- Where a path begins.  A path that begins with exactly two slashes is told apart from one that
begins with one, although both begin at the root. -/
inductive Anchor
  | none
  | root
  | doubleRoot
deriving DecidableEq, Repr, Inhabited

/-- What stands before the parts of a path. -/
def Anchor.text : Anchor → String
  | none => ""
  | root => "/"
  | doubleRoot => "//"

/-- Whether a text can be a part of a path: it is neither empty nor a step to the same place, and
holds no separator. -/
def isPathPart (part : String) : Bool :=
  part ≠ "" && part ≠ "." && !part.toList.contains '/'

/-- A path. -/
structure Path where
  anchor : Anchor
  parts : List String
  proper : ∀ part ∈ parts, isPathPart part = true
deriving DecidableEq, Repr

/-- The step up. -/
def Path.up : String := ".."

namespace Path

instance : Inhabited Path := ⟨⟨.none, [], List.forall_mem_nil _⟩⟩

/-- Where the path of a text begins. -/
def anchorOf : List Char → Anchor
  | '/' :: '/' :: '/' :: _ => .root
  | '/' :: '/' :: _ => .doubleRoot
  | '/' :: _ => .root
  | _ => .none

/-- The path of a text. -/
def ofText (text : String) : Path where
  anchor := anchorOf text.toList
  parts := ((text.toList.splitOn '/').map String.ofList).filter isPathPart
  proper _ hpart := (List.mem_filter.1 hpart).2

/-- The text of a path; the path without parts that begins nowhere is a single point. -/
def text (p : Path) : String :=
  match p.anchor, p.parts with
  | .none, [] => "."
  | anchor, parts => anchor.text ++ "/".intercalate parts

/-- A path followed by the parts of another one. -/
def append (p q : Path) : Path where
  anchor := p.anchor
  parts := p.parts ++ q.parts
  proper part hpart := (List.mem_append.1 hpart).elim (p.proper part) (q.proper part)

@[simp] theorem append_anchor (p q : Path) : (p.append q).anchor = p.anchor := rfl

@[simp] theorem append_parts (p q : Path) : (p.append q).parts = p.parts ++ q.parts := rfl

/-- A path from another one on.  A path from the root stays as it is. -/
def join (p q : Path) : Path :=
  match q.anchor with
  | .none => p.append q
  | _ => q

/-- The path of a name in a directory. -/
def child (p : Path) (name : String) : Path :=
  p.join (ofText name)

/-- Whether a path holds the null character, which no name can hold. -/
def hasNull (p : Path) : Bool :=
  p.parts.any (·.toList.contains '\x00')

/-- The directory of a path.  A path without parts is its own. -/
def parent (p : Path) : Path where
  anchor := p.anchor
  parts := p.parts.dropLast
  proper part hpart := p.proper part ((List.dropLast_sublist _).mem hpart)

/-- The first parts of a path. -/
def take (p : Path) (count : Nat) : Path where
  anchor := p.anchor
  parts := p.parts.take count
  proper part hpart := p.proper part (List.mem_of_mem_take hpart)

/-- The parts of a path from a number of them on, as a path that begins nowhere. -/
def drop (p : Path) (count : Nat) : Path where
  anchor := .none
  parts := p.parts.drop count
  proper part hpart := p.proper part (List.mem_of_mem_drop hpart)

/-- The last part of a path, empty if it has none. -/
def name (p : Path) : String :=
  p.parts.getLastD ""

/-- The name of a path up to its last point, unless the point is its first or last character. -/
def stem (p : Path) : String :=
  let letters := p.name.toList
  let extension := letters.reverse.takeWhile (· ≠ '.')
  let before := letters.take (letters.length - extension.length - 1)
  if letters.contains '.' && !extension.isEmpty && !before.isEmpty then String.ofList before
  else p.name

/-- Whether a path lies below another one. -/
def isBelow (p directory : Path) : Bool :=
  p.anchor == directory.anchor && directory.parts.isPrefixOf p.parts &&
    directory.parts.length < p.parts.length

/-- Whether a list of names comes no later than another one, name by name. -/
def inOrder (names others : List String) : Bool :=
  !others.lex names

/-- What orders paths: where they begin, then their parts. -/
def sortKey (p : Path) : List String :=
  match p.anchor with
  | .none => p.parts
  | anchor => anchor.text :: p.parts

end Path

/-- A path that does not lie in the directory it is to be named from. -/
structure OutsideError where
  path : Path
  directory : Path
deriving DecidableEq, Repr

/-- The wording of the error. -/
def OutsideError.message (e : OutsideError) : String :=
  quoted e.path.text ++ " is not in the subpath of " ++ quoted e.directory.text ++
    " OR one path is relative and the other is absolute."

/-- A path as it is named from a directory it lies in. -/
def Path.relativeTo (p directory : Path) : Except OutsideError Path :=
  if p.anchor = directory.anchor ∧ directory.parts.isPrefixOf p.parts then
    .ok (p.drop directory.parts.length)
  else .error ⟨p, directory⟩

end RecordMirror
