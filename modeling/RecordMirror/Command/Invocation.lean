import RecordMirror.Command.Line
import RecordMirror.Mode
/-!
What a command line asks for: one of four commands with what it applies to, or help.
-/

namespace RecordMirror.Command

/-- The commands. -/
inductive Name
  | init
  | check
  | generate
  | plan
deriving DecidableEq, Repr

namespace Name

/-- The word for a command. -/
def word : Name → String
  | init => "init"
  | check => "check"
  | generate => "generate"
  | plan => "plan"

/-- All commands. -/
def all : List Name :=
  [init, check, generate, plan]

/-- The command of a word. -/
def ofWord? (text : String) : Option Name :=
  all.find? (·.word = text)

end Name

/-- The flag that asks for help. -/
def helpFlag : Flag :=
  { kind := .help, names := ["-h", "--help"] }

/-- The flag for the mode of requests that name none. -/
def defaultModeFlag : Flag :=
  { kind := .defaultMode, names := ["--default-mode"], takesValue := true,
    choices := Mode.all.map Mode.name }

/-- The flag for strict references. -/
def strictReferencesFlag : Flag :=
  { kind := .strictReferences, names := ["--strict-references"] }

/-- The flag for the file that plans are written to. -/
def outputFlag : Flag :=
  { kind := .output, names := ["-o", "--output"], takesValue := true }

/-- What the line of a command may hold. -/
def Name.form : Name → Form
  | plan =>
    ⟨[helpFlag, defaultModeFlag, strictReferencesFlag, outputFlag], "schema", true⟩
  | _ => ⟨[helpFlag], "directory", false⟩

/-- What messages call the place of the command on the line. -/
def commandLabel : String := "COMMAND"

/-- What is asked for. -/
inductive Invocation
  | init (directory : String)
  | check (directory : String)
  | generate (directory : String)
  | plan (schema : String) (mode : Mode) (strict : Bool) (output : Option String)
  | help (topic : Option Name)
deriving DecidableEq, Repr

/-- A line that is refused, by the program or by one of its commands. -/
structure LineError where
  topic : Option Name
  fault : LineFault
deriving DecidableEq, Repr

namespace Invocation

/-- The invocation of a command whose line has been read. -/
def ofReading (r : Reading) : Name → Invocation
  | .init => .init (r.operand.getD ".")
  | .check => .check (r.operand.getD ".")
  | .generate => .generate (r.operand.getD ".")
  | .plan =>
    .plan (r.operand.getD "") (((r.value? .defaultMode).bind Mode.ofName?).getD .readonly)
      (r.value? .strictReferences).isSome
      (match r.value? .output with
      | some "" => none
      | output => output)

/-- Reads the line after the word for a command.  The program refuses what the command leaves. -/
def ofCommand (name : Name) (extras line : List String) : Except LineError Invocation :=
  match name.form.read line with
  | .error .help => .ok (.help (some name))
  | .error (.fault fault) => .error ⟨some name, fault⟩
  | .ok r =>
    if extras ++ r.extras = [] then .ok (ofReading r name)
    else .error ⟨none, .unrecognized (extras ++ r.extras)⟩

/-- A word that names no command. -/
def noCommand (word : String) : Except LineError Invocation :=
  .error ⟨none, .badChoice commandLabel word (Name.all.map Name.word)⟩

/-- Reads a line: flags of the program, the word for a command, and the line of the command.  A
line without a command asks for help. -/
def readAfter (extras : List String) : List String → Except LineError Invocation
  | [] => if extras = [] then .ok (.help none) else .error ⟨none, .unrecognized extras⟩
  | ["--"] => .error ⟨none, .unrecognized (extras ++ ["--"])⟩
  | "--" :: _ :: _ => noCommand "--"
  | text :: rest =>
    match readWord [helpFlag] text with
    | .error fault => .error ⟨none, fault⟩
    | .ok (.operand word) =>
      match Name.ofWord? word with
      | none => noCommand word
      | some name => ofCommand name extras rest
    | .ok (.flag flag name attached) =>
      match settingsOf [helpFlag] flag name attached none with
      | .error fault => .error ⟨none, fault⟩
      | .ok _ => .ok (.help none)
    | .ok _ => readAfter (extras ++ [text]) rest

/-- What a line asks for. -/
def read (line : List String) : Except LineError Invocation :=
  readAfter [] line

end Invocation

end RecordMirror.Command
