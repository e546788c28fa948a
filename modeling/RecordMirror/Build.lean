import RecordMirror.Config
import RecordMirror.FileTree
import RecordMirror.ModuleText
/-!
Building modules: every schema file of a list is compiled to a module of its own.  Nothing is
written unless all of them compile.
-/

namespace RecordMirror

/-- Why a schema file is refused. -/
inductive BuildFault
  | moduleName (schema : Path) (name : String)
  | outputTaken (schema output : Path)
  | unreadable (cause : AccessError)
  | uncompilable (cause : CompileError)
deriving DecidableEq, Repr

/-- The wording of a fault. -/
def BuildFault.message : BuildFault → String
  | moduleName schema name =>
    schema.text ++ ": persistent module name " ++ quoted name ++
      " is not a valid Python module name"
  | outputTaken schema output =>
    s!"{schema.text}: output module '{output.name}' is already generated from another file"
  | unreadable cause => s!"Cannot read schema file '{cause.path.text}': {cause.message}"
  | uncompilable cause => cause.message

/-- Why a build fails: a schema file is refused, its path can name no file, it is no text, an import
line of its module names no module, or a module cannot be written. -/
inductive BuildError
  | refused (fault : BuildFault)
  | unnamable (cause : AccessError)
  | undecodable (cause : Utf8Error)
  | importLine (cause : ImportLineError)
  | unwritable (cause : AccessError)
deriving DecidableEq, Repr

/-- The wording of the error. -/
def BuildError.message : BuildError → String
  | refused fault => fault.message
  | unnamable cause => cause.message
  | undecodable cause => cause.message
  | importLine cause => cause.message
  | unwritable cause => cause.message

/-- A module and where it is to be written. -/
structure BuiltModule where
  schema : Path
  output : Path
  text : String
deriving DecidableEq, Repr, Inhabited

namespace Build

/-- The end of the name of a schema file. -/
def schemaSuffix : String := ".mirror"

/-- The end of the name of a module. -/
def outputSuffix : String := "_mirrors.py"

/-- Whether a name can be imported from: identifiers between points, none of them reserved. -/
def isModuleName (name : String) : Bool :=
  ((name.toList.splitOn '.').map String.ofList).all fun part =>
    isIdentifier part && !isReserved part

/-- The module that the records of a schema file are imported from: the configured one, or the one
named like the file. -/
def persistentModule (config : Config) (schema : Path) : String :=
  match config.persistentModule with
  | some name => if name.isEmpty then schema.stem else name
  | none => schema.stem

/-- Where the module of a schema file is written. -/
def outputPath (directory schema : Path) : Path :=
  directory.child (schema.stem ++ outputSuffix)

/-- How the schema of a file is planned. -/
def planOptions (config : Config) (schema : Path) : PlanOptions :=
  ⟨config.defaultMode, config.strictReferences, schema.name⟩

/-- The module of a schema file, given where modules are written already. -/
def compileFile (files : FileTree) (directory : Path) (config : Config) (taken : List Path)
    (schema : Path) : Except BuildError BuiltModule :=
  let module := persistentModule config schema
  let output := outputPath directory schema
  if !isModuleName module then .error (.refused (.moduleName schema module))
  else if output ∈ taken then .error (.refused (.outputTaken schema output))
  else
    match files.readText schema with
    | .error (.access cause) =>
      if cause.fault = .nullCharacter then .error (.unnamable cause)
      else .error (.refused (.unreadable cause))
    | .error (.decoding cause) => .error (.undecodable cause)
    | .ok source =>
      match moduleOfSource (planOptions config schema) (some module) source with
      | .error (.compile cause) => .error (.refused (.uncompilable cause))
      | .error (.importLine cause) => .error (.importLine cause)
      | .ok text => .ok ⟨schema, output, text⟩

/-- The modules of a list of schema files, in order.  The first file that fails decides. -/
def compileAll (files : FileTree) (directory : Path) (config : Config) (taken : List Path) :
    List Path → Except BuildError (List BuiltModule)
  | [] => .ok []
  | schema :: rest => do
    let built ← compileFile files directory config taken schema
    let others ← compileAll files directory config (built.output :: taken) rest
    return built :: others

/-- Writes modules in order, up to the first that cannot be written. -/
def writeAll (files : FileTree) : List BuiltModule → FileTree × Except AccessError Unit
  | [] => (files, .ok ())
  | built :: rest =>
    match files.writeText built.output built.text with
    | .error cause => (files, .error cause)
    | .ok files => writeAll files rest

/-- Compiles a list of schema files and writes their modules to a directory. -/
def run (files : FileTree) (schemas : List Path) (directory : Path) (config : Config) :
    FileTree × Except BuildError (List BuiltModule) :=
  match compileAll files directory config [] schemas with
  | .error cause => (files, .error cause)
  | .ok modules =>
    match files.ensureDirectory directory with
    | (files, .error cause) => (files, .error (.unwritable cause))
    | (files, .ok ()) =>
      match writeAll files modules with
      | (files, .error cause) => (files, .error (.unwritable cause))
      | (files, .ok ()) => (files, .ok modules)

end Build

end RecordMirror
