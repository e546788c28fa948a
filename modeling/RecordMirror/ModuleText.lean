import RecordMirror.Code.Library
import RecordMirror.Plan
/-!
The text of a generated module: a header comment, the imports, and one class for each plan.
-/

namespace RecordMirror

namespace Plan

/-- The lines of a mirror class: its fields, the constructor that converts a record, and the
method that builds one.  The fields come in the same order in all three places. -/
def classLinesOf (record : String) (mode : Mode) (fields : List FieldMapping) : List String :=
  let mirror := mode.mirrorName record
  mode.style.decorators ++
  ["class " ++ mirror ++ ":"] ++
  fields.map (fun field => "    " ++ field.declaration) ++
  (if fields.isEmpty then [] else [""]) ++
  ["    @classmethod",
    "    def from_persisted(cls, " ++ persistedObject ++ ": " ++ record ++ ") -> " ++ mirror ++
      ":"] ++
  (if fields.isEmpty then ["        return cls()"]
    else
      ["        return cls("] ++
      fields.map (fun field => "            " ++ field.name ++ "=" ++ field.forward ++ ",") ++
      ["        )"]) ++
  ["",
    "    def build_persisted_object(self) -> " ++ record ++ ":",
    "        " ++ persistedObject ++ " = " ++ record ++ "()"] ++
  fields.map (fun field => "        " ++ field.backward) ++
  ["        return " ++ persistedObject]

/-- The text of a mirror class, without a line end after it. -/
def classTextOf (record : String) (mode : Mode) (fields : List FieldMapping) : String :=
  "\n".intercalate (classLinesOf record mode fields)

/-- The text of the mirror class of a plan. -/
def classText (plan : Plan) : String :=
  classTextOf plan.record plan.mode plan.fields

end Plan

/-- An import line that names no module. -/
structure ImportLineError where
  line : String
deriving DecidableEq, Repr

/-- The wording of the error. -/
def ImportLineError.message (_ : ImportLineError) : String :=
  "list index out of range"

/-- The top-level package that an import line names: its second word, up to the first point. -/
def importedPackage (line : String) : Except ImportLineError String :=
  match blankSeparated line.toList with
  | _ :: package :: _ => .ok (String.ofList (package.takeWhile (· != '.')))
  | _ => .error ⟨line⟩

/-- Splits import lines into those of the standard library and the others. -/
def splitImports : List String → Except ImportLineError (List String × List String)
  | [] => .ok ([], [])
  | line :: rest => do
    let package ← importedPackage line
    let (library, others) ← splitImports rest
    return if Code.isLibraryModule package then (line :: library, others)
      else (library, line :: others)

/-- Where the records of a module come from, and what the module calls its source. -/
structure ModuleOptions where
  /-- The module that the records are imported from, if any. -/
  persistentModule : Option String := none
  /-- The name of the source in the header comment, if any. -/
  label : Option String := none
deriving DecidableEq, Repr, Inhabited

namespace ModuleText

/-- The import that every generated module has. -/
def dataclassImport : String := "from dataclasses import dataclass"

/-- The import that modules with an observable mirror have. -/
def observableImport : String := "from mirrorgen.runtime import observable"

/-- The comment a generated module begins with. -/
def header (label : Option String) : String :=
  let source := match label with
    | some label => if label.isEmpty then "" else " from " ++ label
    | none => ""
  "# Generated by mirrorgen" ++ source ++ ". Do not edit."

/-- The import line of the records of some plans. -/
def recordImport (persistentModule : Option String) (plans : List Plan) : List String :=
  let records := sortedDistinct (plans.map (·.record))
  match persistentModule with
  | none => []
  | some name =>
    if name.isEmpty || records.isEmpty then []
    else ["", "from " ++ name ++ " import " ++ ", ".intercalate records]

/-- The lines of a module before its first class. -/
def preamble (options : ModuleOptions) (plans : List Plan) :
    Except ImportLineError (List String) := do
  let imports := sortedDistinct (dataclassImport :: plans.flatMap (·.imports))
  let (library, others) ← splitImports imports
  return [header options.label, "", "from __future__ import annotations", ""] ++ library ++
    (if others.isEmpty then [] else "" :: others) ++
    (if plans.any (·.mode == .observable) then ["", observableImport] else []) ++
    recordImport options.persistentModule plans

end ModuleText

/-- The text of the module that holds the mirrors of some plans. -/
def moduleText (options : ModuleOptions) (plans : List Plan) : Except ImportLineError String := do
  let preamble ← ModuleText.preamble options plans
  let classes := plans.flatMap fun plan => ["", "", plan.classText]
  return "\n".intercalate (preamble ++ classes) ++ "\n"

/-- Why a source has no module. -/
inductive ModuleError
  | compile (cause : CompileError)
  | importLine (cause : ImportLineError)
deriving DecidableEq, Repr

/-- The text of the module that holds the mirrors a source requests. -/
def moduleOfSource (options : PlanOptions) (persistentModule : Option String) (source : String) :
    Except ModuleError String :=
  match Plan.ofSource options source with
  | .error cause => .error (.compile cause)
  | .ok plans => (moduleText ⟨persistentModule, some options.label⟩ plans).mapError .importLine

end RecordMirror
