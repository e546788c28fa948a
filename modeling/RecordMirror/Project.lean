import RecordMirror.Build
import RecordMirror.Config.File
/-!
Projects: a directory with a configuration and schema files at any depth.  What lies in the build
directory is no schema file of the project.
-/

namespace RecordMirror

/-- A project. -/
structure Project where
  directory : Path
  config : Config
  /-- The schema files, ordered. -/
  schemas : List Path
deriving DecidableEq, Repr, Inhabited

/-- Why a directory holds no project: it is not there, it cannot be asked for, or its configuration
cannot be read. -/
inductive ProjectError
  | missing (directory : Path)
  | inaccessible (cause : AccessError)
  | config (cause : ConfigFileError)
deriving DecidableEq, Repr

namespace Project

/-- Where the configuration of the project in a directory stands. -/
def configPath (directory : Path) : Path :=
  directory.child Config.fileName

/-- Where the modules of the project in a directory are written. -/
def buildPath (directory : Path) (config : Config) : Path :=
  directory.join (Path.ofText config.buildDirectory)

/-- The configuration of the project in a directory: the one in its file, or the default one. -/
def loadConfig (files : FileTree) (directory : Path) : Except ProjectError Config := do
  if ← (files.contains (configPath directory)).mapError .inaccessible then
    (Config.load files (configPath directory)).mapError .config
  else return Config.defaults

/-- Whether the name of a path is that of a schema file. -/
def isSchemaName (path : Path) : Bool :=
  Build.schemaSuffix.toList.isSuffixOf path.name.toList

/-- The schema files of the project in a directory. -/
def findSchemas (files : FileTree) (directory : Path) (config : Config) : List Path :=
  ((files.descendants directory).filter fun path =>
    isSchemaName path && !path.isBelow (buildPath directory config)).mergeSort
      fun p q => Path.inOrder p.sortKey q.sortKey

/-- The project in a directory, which must be there. -/
def load (files : FileTree) (path : Path) : Except ProjectError Project := do
  let directory ← (files.absolute path).mapError .inaccessible
  if ← (files.contains directory).mapError .inaccessible then
    let config ← loadConfig files directory
    return ⟨directory, config, findSchemas files directory config⟩
  else .error (.missing directory)

/-- What is wrong with a schema file, if anything is. -/
def complaint? (files : FileTree) (config : Config) (schema : Path) :
    Except Utf8Error (Option String) :=
  match files.readText schema with
  | .error (.access cause) => .ok (some s!"cannot read '{schema.text}': {cause.message}")
  | .error (.decoding cause) => .error cause
  | .ok source =>
    match Plan.ofSource (Build.planOptions config schema) source with
    | .error cause => .ok (some cause.message)
    | .ok _ => .ok none

/-- What is wrong with the schema files of a list, in order, up to the first that is no text. -/
def complaints (files : FileTree) (config : Config) : List Path → List String × Option Utf8Error
  | [] => ([], none)
  | schema :: rest =>
    match complaint? files config schema with
    | .error cause => ([], some cause)
    | .ok found =>
      let (others, stopped) := complaints files config rest
      (found.toList ++ others, stopped)

end Project

end RecordMirror
