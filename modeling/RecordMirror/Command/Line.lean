import RecordMirror.Text.DecimalDigit
import RecordMirror.Text.Quoted
/-!
Command lines: the words of a line are flags, values of flags, and operands.  A long flag may be
cut short as long as it stays unique, a value may follow its flag as a word of its own or in the
same word, and what follows a double hyphen is no flag.
-/

namespace RecordMirror.Command

/-- What a flag is for. -/
inductive FlagKind
  | help
  | defaultMode
  | strictReferences
  | output
deriving DecidableEq, Repr

/-- A flag. -/
structure Flag where
  kind : FlagKind
  names : List String
  takesValue : Bool := false
  /-- The values it takes; any value if there are none. -/
  choices : List String := []
deriving DecidableEq, Repr

/-- How messages name a flag. -/
def Flag.label (f : Flag) : String :=
  "/".intercalate f.names

/-- What a command expects on its line. -/
structure Form where
  flags : List Flag
  operand : String
  operandRequired : Bool
deriving DecidableEq, Repr

/-- Why a line is refused. -/
inductive LineFault
  | ambiguous (word : String) (names : List String)
  | ignoredValue (flag : Flag) (value : String)
  | missingValue (flag : Flag)
  | badChoice (argument value : String) (choices : List String)
  | missingOperand (name : String)
  | unrecognized (words : List String)
deriving DecidableEq, Repr

/-- The wording of a fault. -/
def LineFault.message : LineFault → String
  | ambiguous word names =>
    s!"ambiguous option: {word} could match " ++ ", ".intercalate names
  | ignoredValue flag value => s!"argument {flag.label}: ignored explicit argument {quoted value}"
  | missingValue flag => s!"argument {flag.label}: expected one argument"
  | badChoice argument value choices =>
    s!"argument {argument}: invalid choice: {quoted value} (choose from " ++
      ", ".intercalate (choices.map quoted) ++ ")"
  | missingOperand name => "the following arguments are required: " ++ name
  | unrecognized words => "unrecognized arguments: " ++ " ".intercalate words

/-- A value in the same word as its flag, and whether an equals sign stands before it. -/
structure Attached where
  text : List Char
  separated : Bool
deriving DecidableEq, Repr

/-- What a word is. -/
inductive Word
  | operand (text : String)
  | flag (flag : Flag) (name : String) (attached : Option Attached)
  | unknown (text : String)
  | separator
deriving DecidableEq, Repr

/-- The names of some flags, each with its flag. -/
def namedFlags (flags : List Flag) : List (Flag × String) :=
  flags.flatMap fun flag => flag.names.map (flag, ·)

/-- The flag of a name. -/
def flagNamed? (flags : List Flag) (name : String) : Option Flag :=
  ((namedFlags flags).find? (·.2 = name)).map (·.1)

/-- A word up to its first equals sign, and the value after the sign. -/
def splitValue (word : List Char) : List Char × Option Attached :=
  match word.dropWhile (· ≠ '=') with
  | [] => (word, none)
  | _ :: value => (word.takeWhile (· ≠ '='), some ⟨value, true⟩)

/-- The flags that a word may stand for if it is none as it is written: those whose long name it
begins, or the one whose short name begins it. -/
def abbreviated (flags : List Flag) (word : List Char) : List Word :=
  match word with
  | '-' :: '-' :: _ =>
    let (start, attached) := splitValue word
    (namedFlags flags).filterMap fun (flag, name) =>
      if start.isPrefixOf name.toList then some (.flag flag name attached) else none
  | first :: second :: rest =>
    (namedFlags flags).filterMap fun (flag, name) =>
      if name.toList = [first, second] then some (.flag flag name (some ⟨rest, false⟩)) else none
  | _ => []

/-- Digits with at most one point, which has digits after it. -/
def isUnsignedNumber (text : List Char) : Bool :=
  match text.dropWhile isDecimalDigit with
  | [] => !text.isEmpty
  | '.' :: digits => !digits.isEmpty && digits.all isDecimalDigit
  | _ => false

/-- Whether a word is a number below zero.  A line end may follow the number. -/
def isNegativeNumber (word : List Char) : Bool :=
  match word with
  | '-' :: number =>
    isUnsignedNumber (if number.getLast? = some '\n' then number.dropLast else number)
  | _ => false

/-- The name of a flag in a word, if the word is a flag. -/
def Word.flagName : Word → String
  | flag _ name _ => name
  | _ => ""

/-- What a word is, if it does not come after a double hyphen. -/
def readWord (flags : List Flag) (text : String) : Except LineFault Word :=
  match text.toList with
  | '-' :: second :: rest =>
    let word := '-' :: second :: rest
    match flagNamed? flags text with
    | some flag => .ok (.flag flag text none)
    | none =>
      let (start, attached) := splitValue word
      match attached, flagNamed? flags (String.ofList start) with
      | some value, some flag => .ok (.flag flag (String.ofList start) (some value))
      | _, _ =>
        match abbreviated flags word with
        | [found] => .ok found
        | [] =>
          .ok (if isNegativeNumber word || word.contains ' ' then .operand text else .unknown text)
        | several => .error (.ambiguous text (several.map Word.flagName))
  | _ => .ok (.operand text)

/-- What the words of a line are.  The first double hyphen separates: all words after it are
operands. -/
def readWords (flags : List Flag) : List String → Except LineFault (List Word)
  | [] => .ok []
  | "--" :: rest => .ok (.separator :: rest.map .operand)
  | text :: rest => do
    let word ← readWord flags text
    let words ← readWords flags rest
    return word :: words

/-- What a word with flags sets. -/
structure Settings where
  flags : List (Flag × Option String)
  /-- The end of the word, if it stands for no flag. -/
  unknown : List String := []
  /-- Whether the last flag takes the next word for its value. -/
  takesNext : Bool := false
deriving DecidableEq, Repr

/-- What a flag sets at the end of its word, given the next word if that is an operand. -/
def settingsAtEnd (flag : Flag) (next : Option String) : Except LineFault Settings :=
  if flag.takesValue then
    match next with
    | some value => .ok { flags := [(flag, some value)], takesNext := true }
    | none => .error (.missingValue flag)
  else .ok { flags := [(flag, none)] }

/-- What a short flag and the text after it in its word set: the text is the value of the flag if
it takes one, and else holds further short flags. -/
def settingsOfCluster (flags : List Flag) (next : Option String) (flag : Flag)
    (separated : Bool) : List Char → Except LineFault Settings
  | [] =>
    if flag.takesValue then .ok { flags := [(flag, some "")] } else .error (.ignoredValue flag "")
  | c :: rest =>
    if flag.takesValue then .ok { flags := [(flag, some (String.ofList (c :: rest)))] }
    else if separated || c == '-' then .error (.ignoredValue flag (String.ofList (c :: rest)))
    else
      match flagNamed? flags (String.ofList ['-', c]) with
      | none => .ok { flags := [(flag, none)], unknown := [String.ofList ('-' :: c :: rest)] }
      | some other => do
        let settings ← match rest with
          | [] => settingsAtEnd other next
          | '=' :: value => settingsOfCluster flags next other true value
          | value@(_ :: _) => settingsOfCluster flags next other false value
        return { settings with flags := (flag, none) :: settings.flags }

/-- What a word with a flag sets, given the next word if that is an operand. -/
def settingsOf (flags : List Flag) (flag : Flag) (name : String) (attached : Option Attached)
    (next : Option String) : Except LineFault Settings :=
  match attached with
  | none => settingsAtEnd flag next
  | some ⟨text, separated⟩ =>
    if flag.takesValue then .ok { flags := [(flag, some (String.ofList text))] }
    else if ['-', '-'].isPrefixOf name.toList then .error (.ignoredValue flag (String.ofList text))
    else settingsOfCluster flags next flag separated text

/-- Why the reading of a line stops: help is asked for, or the line is refused. -/
inductive Stop
  | help
  | fault (fault : LineFault)
deriving DecidableEq, Repr

/-- What a line gives. -/
structure Reading where
  operand : Option String := none
  /-- The values of flags, in the order in which they came. -/
  values : List (FlagKind × String) := []
  /-- The words that have no meaning. -/
  extras : List String := []
deriving DecidableEq, Repr, Inhabited

namespace Reading

/-- Adds words without meaning. -/
def leave (r : Reading) (words : List String) : Reading :=
  { r with extras := r.extras ++ words }

/-- Takes a value for the operand, which must be unset. -/
def take (r : Reading) (operand : String) : Reading :=
  { r with operand := some operand }

/-- Takes the settings of a flag.  Its value must be one of its choices. -/
def set (r : Reading) : List (Flag × Option String) → Except Stop Reading
  | [] => .ok r
  | (flag, value) :: rest =>
    if flag.kind = .help then .error .help
    else
      let value := value.getD ""
      if flag.choices ≠ [] ∧ value ∉ flag.choices then
        .error (.fault (.badChoice flag.label value flag.choices))
      else set { r with values := r.values ++ [(flag.kind, value)] } rest

/-- The last value of a flag. -/
def value? (r : Reading) (kind : FlagKind) : Option String :=
  (r.values.reverse.find? (·.1 = kind)).map (·.2)

end Reading

/-- Reads words in order.  The first operand is the operand of the command, further ones have no
meaning.  A double hyphen beside the operand goes with it. -/
def readLine (form : Form) (r : Reading) : List Word → Except Stop Reading
  | [] => .ok r
  | .operand text :: rest =>
    if r.operand.isSome then readLine form (r.leave [text]) rest
    else
      match rest with
      | .separator :: more => readLine form (r.take text) more
      | rest => readLine form (r.take text) rest
  | .separator :: rest =>
    if r.operand.isSome then readLine form (r.leave ["--"]) rest
    else
      match rest with
      | .operand text :: more => readLine form (r.take text) more
      | rest => readLine form (if form.operandRequired then r.leave ["--"] else r) rest
  | .unknown text :: rest => readLine form (r.leave [text]) rest
  | .flag flag name attached :: rest =>
    match rest with
    | .operand text :: more =>
      match settingsOf form.flags flag name attached (some text) with
      | .error fault => .error (.fault fault)
      | .ok settings => do
        let r ← (r.leave settings.unknown).set settings.flags
        if settings.takesNext then readLine form r more else readLine form r (.operand text :: more)
    | rest =>
      match settingsOf form.flags flag name attached none with
      | .error fault => .error (.fault fault)
      | .ok settings => do
        let r ← (r.leave settings.unknown).set settings.flags
        readLine form r rest

/-- Reads the line of a command.  All its words are told apart before the first is used. -/
def Form.read (form : Form) (line : List String) : Except Stop Reading := do
  let words ← (readWords form.flags line).mapError .fault
  let r ← readLine form {} words
  if form.operandRequired ∧ r.operand = none then .error (.fault (.missingOperand form.operand))
  else .ok r

end RecordMirror.Command
