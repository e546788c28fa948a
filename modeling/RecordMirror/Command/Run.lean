import RecordMirror.Command.Help
import RecordMirror.Plan.File
import RecordMirror.Project
/-!
What the commands do to a tree of files, and what they print.
-/

namespace RecordMirror.Command

/-- What ends a run before it has an exit code. -/
inductive Failure
  | access (cause : AccessError)
  | decoding (cause : Utf8Error)
  | config (cause : ConfigError)
  | importLine (cause : ImportLineError)
  | outside (cause : OutsideError)
deriving DecidableEq, Repr

/-- The wording of the failures that have one. -/
def Failure.message? : Failure → Option String
  | access cause => some cause.message
  | decoding cause => some cause.message
  | config cause => cause.message?
  | importLine cause => some cause.message
  | outside cause => some cause.message

/-- How a run ends: its exit code or its failure, what it printed, and the tree it leaves. -/
structure Outcome where
  ending : Except Failure Nat
  output : String
  errors : String
  files : FileTree

/-- How errors are announced. -/
def errorLine (message : String) : String :=
  "Error: " ++ message

namespace Outcome

/-- A run that succeeds. -/
def succeed (files : FileTree) (output : List String) : Outcome :=
  ⟨.ok 0, lines output, "", files⟩

/-- A run that reports errors. -/
def report (files : FileTree) (output errors : List String) : Outcome :=
  ⟨.ok 1, lines output, lines (errors.map errorLine), files⟩

/-- A run that is broken off after it has printed something. -/
def fail (files : FileTree) (output errors : List String) (failure : Failure) : Outcome :=
  ⟨.error failure, lines output, lines (errors.map errorLine), files⟩

end Outcome

/-- What is said of a directory that is not there. -/
def noDirectory (directory : Path) : String :=
  s!"directory '{directory.text}' does not exist."

/-- Writes the configuration that sets nothing into a directory without a configuration. -/
def initialize? (files : FileTree) (path : Path) : Except AccessError Outcome := do
  let directory ← files.absolute path
  let file := Project.configPath directory
  if !(← files.contains directory) then return .report files [] [noDirectory directory]
  else if ← files.contains file then
    return .report files [] [s!"configuration already exists at '{file.text}'."]
  else
    let written ← files.writeText file Config.defaultText
    return .succeed written [s!"Initialized mirrorgen configuration at '{file.text}'."]

/-- Gives a directory a configuration. -/
def runInit (files : FileTree) (directoryText : String) : Outcome :=
  match initialize? files (Path.ofText directoryText) with
  | .error cause => .fail files [] [] (.access cause)
  | .ok outcome => outcome

/-- How a run ends whose project cannot be loaded. -/
def withoutProject (files : FileTree) : ProjectError → Outcome
  | .missing directory => .report files [] [noDirectory directory]
  | .inaccessible cause => .fail files [] [] (.access cause)
  | .config (.undecodable cause) => .fail files [] [] (.decoding cause)
  | .config (.unnamable cause) => .fail files [] [] (.access cause)
  | .config (.content cause@(.invalid ..)) => .report files [] [cause.message?.getD ""]
  | .config (.content cause) => .fail files [] [] (.config cause)
  | .config cause => .report files [] [cause.message?.getD ""]

/-- What is said of a project without schema files. -/
def noSchemas : String :=
  s!"No {Build.schemaSuffix} files found."

/-- Checks that the schema files of a project can be planned. -/
def runCheck (files : FileTree) (directoryText : String) : Outcome :=
  match Project.load files (Path.ofText directoryText) with
  | .error cause => withoutProject files cause
  | .ok project =>
    if project.schemas = [] then .succeed files [noSchemas]
    else
      let start := s!"Checking {project.schemas.length} schema file(s)..."
      match Project.complaints files project.config project.schemas with
      | (complaints, some cause) => .fail files [start] complaints (.decoding cause)
      | ([], none) => .succeed files [start, "No issues found."]
      | (complaints, none) => .report files [start] complaints

/-- What is said of modules that have been written, in order, up to the first that does not lie in
the directory of the project. -/
def written (directory : Path) : List BuiltModule → List String × Option OutsideError
  | [] => ([], none)
  | built :: rest =>
    match built.schema.relativeTo directory, built.output.relativeTo directory with
    | .error cause, _ => ([], some cause)
    | _, .error cause => ([], some cause)
    | .ok schema, .ok output =>
      let (others, stopped) := written directory rest
      (s!"  {schema.text} -> {output.text}" :: others, stopped)

/-- Writes the modules of the schema files of a project. -/
def runGenerate (files : FileTree) (directoryText : String) : Outcome :=
  match Project.load files (Path.ofText directoryText) with
  | .error cause => withoutProject files cause
  | .ok project =>
    if project.schemas = [] then .succeed files [noSchemas]
    else
      let start := s!"Generating mirrors for {project.schemas.length} schema file(s)..."
      let directory := Project.buildPath project.directory project.config
      match Build.run files project.schemas directory project.config with
      | (files, .error (.refused fault)) => .report files [start] [fault.message]
      | (files, .error (.unnamable cause)) => .fail files [start] [] (.access cause)
      | (files, .error (.undecodable cause)) => .fail files [start] [] (.decoding cause)
      | (files, .error (.importLine cause)) => .fail files [start] [] (.importLine cause)
      | (files, .error (.unwritable cause)) => .fail files [start] [] (.access cause)
      | (files, .ok modules) =>
        match written project.directory modules with
        | (said, none) => .succeed files (start :: said)
        | (said, some cause) => .fail files (start :: said) [] (.outside cause)

/-- Prints the plans of a schema file or writes them to a file. -/
def runPlan (files : FileTree) (schemaText : String) (mode : Mode) (strict : Bool)
    (output : Option String) : Outcome :=
  let schema := Path.ofText schemaText
  match files.hasFile schema with
  | .error cause => .fail files [] [] (.access cause)
  | .ok false => .report files [] [s!"schema file '{schema.text}' does not exist."]
  | .ok true =>
    match files.readText schema with
    | .error (.access cause) => .fail files [] [] (.access cause)
    | .error (.decoding cause) => .fail files [] [] (.decoding cause)
    | .ok source =>
      match Plan.ofSource ⟨mode, strict, schema.name⟩ source with
      | .error cause => .report files [] [cause.message]
      | .ok plans =>
        match output with
        | none => .succeed files [Plan.serialize plans]
        | some target =>
          match Plan.store files plans (Path.ofText target) with
          | (files, .error cause) => .fail files [] [] (.access cause)
          | (files, .ok ()) => .succeed files [s!"Wrote {plans.length} plan(s) to '{target}'."]

/-- Does what is asked for. -/
def Invocation.run (files : FileTree) : Invocation → Outcome
  | init directory => runInit files directory
  | check directory => runCheck files directory
  | generate directory => runGenerate files directory
  | plan schema mode strict output => runPlan files schema mode strict output
  | help topic => ⟨.ok 0, Command.help topic, "", files⟩

/-- Runs a command line. -/
def run (files : FileTree) (line : List String) : Outcome :=
  match Invocation.read line with
  | .error refusal => ⟨.ok 2, "", refusal.message, files⟩
  | .ok invocation => invocation.run files

end RecordMirror.Command
