import RecordMirror.Command.Invocation
/-!
The texts that explain the command line.
-/

namespace RecordMirror.Command

/-- The text of some lines. -/
def lines (texts : List String) : String :=
  String.join (texts.map (· ++ "\n"))

/-- What messages call the program or one of its commands. -/
def programName : Option Name → String
  | none => "mirrorgen"
  | some name => "mirrorgen " ++ name.word

/-- How the program or one of its commands is used. -/
def usage : Option Name → List String
  | none => ["usage: mirrorgen [-h] COMMAND ..."]
  | some .plan =>
    ["usage: mirrorgen plan [-h] [--default-mode \x7breadonly,observable\x7d]",
      "                      [--strict-references] [-o OUTPUT]",
      "                      schema"]
  | some name => ["usage: " ++ programName name ++ " [-h] [directory]"]

/-- The help on a command that takes a project directory, after its usage. -/
def projectHelp (summary : String) : List String :=
  [summary,
    "",
    "positional arguments:",
    "  directory   Project directory (default: current directory)",
    "",
    "options:",
    "  -h, --help  show this help message and exit"]

/-- The help on the program or one of its commands, after its usage. -/
def helpBody : Option Name → List String
  | none =>
    ["mirrorgen - readonly and observable mirrors for persistent records",
      "",
      "positional arguments:",
      "  COMMAND",
      "    init      Create a mirrorgen configuration file",
      "    check     Check that all schema files compile",
      "    generate  Generate mirror modules for all schema files",
      "    plan      Print the mapping plan of a schema file as JSON",
      "",
      "options:",
      "  -h, --help  show this help message and exit"]
  | some .init => projectHelp "Write a default .mirrorgen.yaml into a project directory."
  | some .check => projectHelp "Compile every .mirror file in a project without writing output."
  | some .generate =>
    projectHelp "Compile every .mirror file in a project and write the mirror modules."
  | some .plan =>
    ["Compute the mapping plans of one schema file and print or write them as JSON.",
      "",
      "positional arguments:",
      "  schema                Path to a .mirror file",
      "",
      "options:",
      "  -h, --help            show this help message and exit",
      "  --default-mode \x7breadonly,observable\x7d",
      "                        Mode of @mirror attributes without an argument",
      "                        (default: readonly)",
      "  --strict-references   Report references to records without a mirror of the",
      "                        same mode",
      "  -o OUTPUT, --output OUTPUT",
      "                        Write the plan to this file instead of standard output"]

/-- The help on the program or one of its commands. -/
def help (topic : Option Name) : String :=
  lines (usage topic ++ [""] ++ helpBody topic)

/-- The wording of the refusal of a line, after the usage of what refuses it. -/
def LineError.message (e : LineError) : String :=
  lines (usage e.topic ++ [programName e.topic ++ ": error: " ++ e.fault.message])

end RecordMirror.Command
