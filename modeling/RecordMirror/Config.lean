import RecordMirror.Mode
import RecordMirror.Yaml.Document
/-!
The configuration of a project: a YAML mapping with four optional keys.
-/

namespace RecordMirror

/-- The configuration of a project. -/
structure Config where
  /-- The directory of the generated modules, relative to the project. -/
  buildDirectory : String := "generated"
  /-- The module the records are imported from; by default it is named after each schema. -/
  persistentModule : Option String := none
  defaultMode : Mode := .readonly
  strictReferences : Bool := false
deriving DecidableEq, Repr, Inhabited

/-- Why a text is no configuration. -/
inductive ConfigFault
  | yaml
  | notAMapping
  | unknownKeys (keys : List String)
  | notText (key : String)
  | mode (cause : UnknownMode)
  | notABoolean (key : String)
deriving DecidableEq, Repr

/-- Why reading a configuration fails: it is invalid, a scalar in it has no value, or it has
unknown keys that cannot be listed, because they have no order or one of them is too long. -/
inductive ConfigError
  | invalid (label : String) (fault : ConfigFault)
  | literal (cause : Yaml.LiteralFault)
  | unorderedKeys (cause : Yaml.OrderFault)
  | longKey
deriving DecidableEq, Repr

/-- The wording of a fault in a labelled configuration. -/
def ConfigFault.message (label : String) : ConfigFault → String
  | yaml => "Invalid YAML in " ++ label
  | notAMapping => label ++ ": configuration must be a YAML mapping"
  | unknownKeys keys => label ++ ": unknown configuration key(s): " ++ ", ".intercalate keys
  | notText key => s!"{label}: '{key}' must be a non-empty string"
  | mode cause => label ++ ": " ++ cause.message
  | notABoolean key => s!"{label}: '{key}' must be a boolean"

/-- The wording of the errors that have one. -/
def ConfigError.message? : ConfigError → Option String
  | invalid label fault => some (fault.message label)
  | literal cause => some cause.message
  | unorderedKeys cause => cause.message?
  | longKey => some (tooManyDigits none)

namespace Config

/-- The key of the build directory. -/
def buildDirectoryKey : String := "build-directory"

/-- The key of the module of the records. -/
def persistentModuleKey : String := "persistent-module"

/-- The key of the default mode. -/
def defaultModeKey : String := "default-mode"

/-- The key of the flag for strict references. -/
def strictReferencesKey : String := "strict-references"

/-- The keys a configuration may have. -/
def knownKeys : List String :=
  [buildDirectoryKey, persistentModuleKey, defaultModeKey, strictReferencesKey]

/-- Whether a key is one of those a configuration may have. -/
def isKnown : Yaml.Value → Bool
  | .text key => knownKeys.contains key
  | _ => false

/-- Inserts a key into an ordered list of keys. -/
def insertOrdered (key : Yaml.Value) : List Yaml.Value → Except Yaml.OrderFault (List Yaml.Value)
  | [] => .ok [key]
  | other :: rest => do
    match ← key.order other with
    | .gt => return other :: (← insertOrdered key rest)
    | _ => return key :: other :: rest

/-- The keys of a list in order, if they can be ordered. -/
def ordered (keys : List Yaml.Value) : Except Yaml.OrderFault (List Yaml.Value) :=
  keys.foldrM insertOrdered []

/-- Lists unknown keys in their order. -/
def describeKeys (keys : List Yaml.Value) : Except ConfigError (List String) := do
  let keys ← (ordered keys).mapError .unorderedKeys
  if keys.any Yaml.Value.isTooLong then .error .longKey
  else return keys.map Yaml.Value.describe

/-- The text of a key, which must not be empty; `none` if the key is absent. -/
def text? (label : String) (entries : List (Yaml.Value × Yaml.Value)) (key : String) :
    Except ConfigError (Option String) :=
  match Yaml.Value.lookup (.text key) entries with
  | none => .ok none
  | some (.text s) => if s.isEmpty then .error (.invalid label (.notText key)) else .ok (some s)
  | some _ => .error (.invalid label (.notText key))

/-- The boolean of a key; `none` if the key is absent. -/
def boolean? (label : String) (entries : List (Yaml.Value × Yaml.Value)) (key : String) :
    Except ConfigError (Option Bool) :=
  match Yaml.Value.lookup (.text key) entries with
  | none => .ok none
  | some (.bool b) => .ok (some b)
  | some _ => .error (.invalid label (.notABoolean key))

/-- The configuration that sets nothing. -/
def defaults : Config := {}

/-- The configuration of the entries of a mapping.  Unknown keys are looked for first, then the
known keys are read in their order. -/
def ofEntries (label : String) (entries : List (Yaml.Value × Yaml.Value)) :
    Except ConfigError Config := do
  let unknown ← describeKeys ((entries.map (·.1)).filter (!isKnown ·))
  if !unknown.isEmpty then .error (.invalid label (.unknownKeys unknown))
  else
    let buildDirectory ← text? label entries buildDirectoryKey
    let persistentModule ← text? label entries persistentModuleKey
    let modeText ← text? label entries defaultModeKey
    let mode ← (Mode.resolve modeText defaults.defaultMode).mapError
      fun cause => .invalid label (.mode cause)
    let strict ← boolean? label entries strictReferencesKey
    return {
      buildDirectory := buildDirectory.getD defaults.buildDirectory
      persistentModule := persistentModule
      defaultMode := mode
      strictReferences := strict.getD defaults.strictReferences }

/-- The configuration of a YAML document.  The absent value is the default configuration. -/
def ofDocument (label : String) : Yaml.Document → Except ConfigError Config
  | .value .null => .ok defaults
  | .value _ => .error (.invalid label .notAMapping)
  | .mapping entries => ofEntries label entries

/-- The configuration of a text. -/
def parse (label text : String) : Except ConfigError Config :=
  match Yaml.Document.load text with
  | .error .malformed => .error (.invalid label .yaml)
  | .error (.literal cause) => .error (.literal cause)
  | .ok document => ofDocument label document

/-- The text of a configuration file that sets nothing but the defaults. -/
def defaultText : String :=
  "# mirrorgen configuration\n" ++
  buildDirectoryKey ++ ": " ++ defaults.buildDirectory ++ "\n" ++
  "# " ++ persistentModuleKey ++ ": app.models\n" ++
  defaultModeKey ++ ": " ++ defaults.defaultMode.name ++ "\n" ++
  strictReferencesKey ++ ": false\n"

end Config

end RecordMirror
