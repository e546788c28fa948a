import RecordMirror.Config
import RecordMirror.FileTree
/-!
Configurations in files.
-/

namespace RecordMirror

/-- Why a file gives no configuration: it is not there, it cannot be read, it is no text, its text
is no configuration, or its path can name no file. -/
inductive ConfigFileError
  | missing (path : Path)
  | unreadable (cause : AccessError)
  | undecodable (cause : Utf8Error)
  | content (cause : ConfigError)
  | unnamable (cause : AccessError)
deriving DecidableEq, Repr

/-- The wording of the errors that have one. -/
def ConfigFileError.message? : ConfigFileError → Option String
  | missing path => some ("Configuration file not found: " ++ path.text)
  | unreadable cause => some ("Cannot read configuration file: " ++ cause.message)
  | undecodable cause => some cause.message
  | content cause => cause.message?
  | unnamable cause => some cause.message

namespace Config

/-- The name of the configuration file of a project. -/
def fileName : String := ".mirrorgen.yaml"

/-- The configuration in a file.  Messages about it name the file. -/
def load (files : FileTree) (path : Path) : Except ConfigFileError Config :=
  match files.readText path with
  | .error (.access cause) =>
    match cause.fault with
    | .missing => .error (.missing path)
    | .nullCharacter => .error (.unnamable cause)
    | _ => .error (.unreadable cause)
  | .error (.decoding cause) => .error (.undecodable cause)
  | .ok text => (parse path.text text).mapError .content

end Config

end RecordMirror
