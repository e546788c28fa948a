/-!
Schemas: the records whose mirrors are generated, and the enumerations declared beside them.
-/

namespace RecordMirror

/-- A field of a record.  Only persisted fields are mirrored. -/
structure Field where
  name : String
  declaredType : String
  persisted : Bool := true
deriving DecidableEq, Repr, Inhabited

/-- A request for a mirror of a record: the text of its mode, if one is given, and the line the
request stands in. -/
structure MirrorRequest where
  mode : Option String := none
  line : Int := 0
deriving DecidableEq, Repr, Inhabited

/-- A record and the mirrors requested for it. -/
structure Record where
  name : String
  fields : List Field := []
  mirrors : List MirrorRequest := []
deriving DecidableEq, Repr, Inhabited

/-- The fields of a record that are mirrored, in order. -/
def Record.persistedFields (r : Record) : List Field :=
  r.fields.filter (·.persisted)

/-- An enumeration. -/
structure Enumeration where
  name : String
  values : List String := []
deriving DecidableEq, Repr, Inhabited

/-- The records and the enumerations of a source, each in order. -/
structure Schema where
  records : List Record := []
  enums : List Enumeration := []
deriving DecidableEq, Repr, Inhabited

/-- One declaration of a source. -/
inductive Declaration
  | record (r : Record)
  | enum (e : Enumeration)
deriving DecidableEq, Repr

namespace Declaration

/-- The type name a declaration introduces. -/
def name : Declaration → String
  | record r => r.name
  | enum e => e.name

/-- The record a declaration is. -/
def record? : Declaration → Option Record
  | record r => some r
  | enum _ => none

/-- The enumeration a declaration is. -/
def enum? : Declaration → Option Enumeration
  | record _ => none
  | enum e => some e

end Declaration

/-- The schema of a list of declarations. -/
def Schema.ofDeclarations (declarations : List Declaration) : Schema :=
  ⟨declarations.filterMap Declaration.record?, declarations.filterMap Declaration.enum?⟩

end RecordMirror
