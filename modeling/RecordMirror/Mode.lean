import RecordMirror.Text.Blank
import RecordMirror.Text.Quoted
/-!
The two modes of a mirror, what differs between them, and the texts that name them.
-/

namespace RecordMirror

/-- The kinds of mirror: a frozen copy, or one that tells observers about assignments. -/
inductive Mode
  | readonly
  | observable
deriving DecidableEq, Repr, Inhabited

/-- The container types of the generated code. -/
inductive Container
  | tuple
  | list
  | frozenset
  | set
  | immutabledict
  | dict
deriving DecidableEq, Repr, Inhabited

/-- The name of a container type in the generated code. -/
def Container.name : Container → String
  | tuple => "tuple"
  | list => "list"
  | frozenset => "frozenset"
  | set => "set"
  | immutabledict => "immutabledict"
  | dict => "dict"

/-- All that differs between the two kinds of mirror. -/
structure Style where
  mode : Mode
  /-- What stands before the name of a record in the name of its mirror. -/
  namePrefix : String
  /-- Whether the fields of a mirror cannot be assigned. -/
  frozen : Bool
  /-- The decorators of a mirror class, outermost first. -/
  decorators : List String
  sequence : Container
  set : Container
  mapping : Container
  /-- The import line that provides the mapping type, if it needs one. -/
  mappingImport : Option String
deriving DecidableEq, Repr

namespace Mode

/-- The name of a mode. -/
def name : Mode → String
  | readonly => "readonly"
  | observable => "observable"

/-- Both modes. -/
def all : List Mode :=
  [readonly, observable]

/-- The mode of a name. -/
def ofName? (text : String) : Option Mode :=
  all.find? (·.name == text)

theorem ofName?_name (m : Mode) : ofName? m.name = some m := by
  cases m <;> decide

/-- The style of the mirrors of a mode. -/
def style : Mode → Style
  | readonly =>
    { mode := readonly
      namePrefix := "Readonly"
      frozen := true
      decorators := ["@dataclass(frozen=True)"]
      sequence := .tuple
      set := .frozenset
      mapping := .immutabledict
      mappingImport := some "from immutabledict import immutabledict" }
  | observable =>
    { mode := observable
      namePrefix := "Observable"
      frozen := false
      decorators := ["@observable", "@dataclass(eq=False)"]
      sequence := .list
      set := .set
      mapping := .dict
      mappingImport := none }

/-- The name of the mirror class of a record. -/
def mirrorName (mode : Mode) (record : String) : String :=
  mode.style.namePrefix ++ record

end Mode

/-- A text that names no mode. -/
structure UnknownMode where
  text : String
deriving DecidableEq, Repr

/-- The wording of the error. -/
def UnknownMode.message (e : UnknownMode) : String :=
  "Unrecognized mapping mode " ++ quoted e.text ++ "; expected 'readonly' or 'observable'"

namespace Mode

/-- Whether a character may quote the name of a mode. -/
def isQuote (c : Char) : Bool :=
  c == '"' || c == '\x27'

/-- The literal in a mode text: what is left inside white space, quotes, and white space. -/
def literal (text : List Char) : List Char :=
  trimBoth isBlank (trimBoth isQuote (trimBoth isBlank text))

/-- The mode a text names. -/
def parse (text : String) : Except UnknownMode Mode :=
  match ofName? (String.ofList (literal text.toList)) with
  | some mode => .ok mode
  | none => .error ⟨text⟩

/-- The mode of a request: the one its text names, or the default if it has none. -/
def resolve (text : Option String) (default : Mode) : Except UnknownMode Mode :=
  match text with
  | none => .ok default
  | some text => parse text

end Mode

end RecordMirror
