import RecordMirror.Json
/-!
Classes whose instances may be observed: their fields, what their instances fall back on, and how
many times assignments to their instances are broadcast.
-/

namespace RecordMirror.Observation

/-- The attribute that marks what can be observed. -/
def markerName : String := "__mirrorgen_observable__"

/-- The attribute that holds the observers of an instance. -/
def observersName : String := "_mirrorgen_observers"

/-- The declaration of a class. -/
structure ClassDecl where
  name : String
  /-- The names of the fields, with their defaults. -/
  fields : List (String × Json)
  observable : Bool := false
  frozen : Bool := false
  base : Option String := none
deriving Repr, Inhabited

/-- A class. -/
structure Class where
  name : String
  /-- The fields in the order in which they are initialised, those of the base first. -/
  fields : List (String × Json) := []
  /-- What instances without an attribute of their own show. -/
  attributes : List (String × Json) := []
  /-- Whether attributes of instances can be neither assigned nor deleted. -/
  frozen : Bool := false
  /-- The number of broadcasts of one assignment: one for each class of the chain, from this one to
  its first base, that was made observable. -/
  broadcasts : Nat := 0
deriving Repr, Inhabited

/-- Whether a default is made anew for every instance; the others are attributes of the class. -/
def isFreshDefault : Json → Bool
  | .array _ => true
  | .object _ => true
  | _ => false

namespace Class

/-- The class of a declaration, over the class it is based on. -/
def extend (base : Class) (decl : ClassDecl) : Class :=
  let own := decl.fields.foldl
    (fun attributes (name, default) =>
      if isFreshDefault default then attributes else Json.setMember name default attributes)
    base.attributes
  { name := decl.name
    fields := decl.fields.foldl (fun fields (name, default) => Json.setMember name default fields)
      base.fields
    attributes := if decl.observable then Json.setMember markerName (.bool true) own else own
    frozen := decl.frozen
    broadcasts := if decl.observable then base.broadcasts + 1 else base.broadcasts }

/-- The class of that name among those declared so far.  The last one of a name counts. -/
def find? (classes : List Class) (name : String) : Option Class :=
  classes.find? (·.name = name)

/-- The classes of some declarations, the last one first. -/
def declare (decls : List ClassDecl) : List Class :=
  decls.foldl (fun classes decl =>
    ((decl.base.bind (find? classes)).getD ⟨"", [], [], false, 0⟩).extend decl :: classes) []

/-- Whether a class is marked as observable. -/
def isObservable (c : Class) : Bool :=
  match Json.member? c.attributes markerName with
  | some (.bool true) => true
  | _ => false

end Class

end RecordMirror.Observation
