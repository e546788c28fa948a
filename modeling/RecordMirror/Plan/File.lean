import RecordMirror.FileTree
import RecordMirror.Plan.Json
/-!
Documents of plans in files.
-/

namespace RecordMirror

/-- Why a file gives no plans. -/
inductive PlanFileError
  | unreadable (cause : ReadError)
  | document (cause : DocumentError)

namespace Plan

/-- Writes the document of some plans to a file, and makes the directories above it. -/
def store (files : FileTree) (plans : List Plan) (path : Path) :
    FileTree × Except AccessError Unit :=
  match files.ensureDirectory path.parent with
  | (files, .error cause) => (files, .error cause)
  | (files, .ok ()) =>
    match files.writeText path (serialize plans) with
    | .error cause => (files, .error cause)
    | .ok files => (files, .ok ())

/-- The plans in a file. -/
def load (files : FileTree) (path : Path) : Except PlanFileError (List Plan) :=
  match files.readText path with
  | .error cause => .error (.unreadable cause)
  | .ok text => (deserialize text).mapError .document

end Plan

end RecordMirror
