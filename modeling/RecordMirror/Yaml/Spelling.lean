import RecordMirror.Yaml.Tag
import RecordMirror.Yaml.Timestamp
/-!
The tag a scalar has by its spelling, where none is given.
-/

namespace RecordMirror.Yaml

namespace Spelling

/-- The words for booleans. -/
def booleanWords : List String :=
  ["yes", "Yes", "YES", "no", "No", "NO", "true", "True", "TRUE", "false", "False", "FALSE",
    "on", "On", "ON", "off", "Off", "OFF"]

/-- The words for the absent value. -/
def nullWords : List String :=
  ["", "~", "null", "Null", "NULL"]

/-- Whether a text is digits and underscores, the first a digit. -/
def isDigits (text : List Char) : Bool :=
  text.head?.any Char.isDigit && text.all fun c => c.isDigit || c == '_'

/-- Whether a text is a number of minutes or seconds in base sixty. -/
def isSixtieth (text : List Char) : Bool :=
  match text with
  | [d] => d.isDigit
  | [t, d] => '0' ≤ t && t ≤ '5' && d.isDigit
  | _ => false

/-- Whether a plain scalar is spelled as an integer: binary, octal, decimal, hexadecimal, or in
base sixty. -/
def isInteger (text : List Char) : Bool :=
  match dropSign text with
  | '0' :: 'b' :: digits => !digits.isEmpty && digits.all fun c => c == '0' || c == '1' || c == '_'
  | '0' :: 'x' :: digits => !digits.isEmpty && digits.all fun c => (hexValue? c).isSome || c == '_'
  | '0' :: digits => digits.all fun c => ('0' ≤ c && c ≤ '7') || c == '_'
  | digits =>
    match digits.splitOnP (· == ':') with
    | first :: rest => isDigits first && rest.all isSixtieth
    | [] => false

/-- Whether a text is the fraction and exponent of a float; the exponent has a sign. -/
def isFractionExponent (text : List Char) : Bool :=
  match text.dropWhile fun c => c.isDigit || c == '_' with
  | [] => true
  | e :: sign :: digits =>
    (e == 'e' || e == 'E') && (sign == '-' || sign == '+') && !digits.isEmpty &&
      digits.all Char.isDigit
  | _ => false

/-- Whether a plain scalar is spelled as a float. -/
def isFloat (text : List Char) : Bool :=
  let unsigned := dropSign text
  let whole := unsigned.takeWhile (· != '.')
  match unsigned.dropWhile (· != '.') with
  | [] => false
  | _ :: fraction =>
    if whole.isEmpty then
      (text.length = unsigned.length && fraction.head?.any Char.isDigit &&
          isFractionExponent fraction) ||
        ["inf", "Inf", "INF"].contains (String.ofList fraction) ||
        (text.length = unsigned.length &&
          ["nan", "NaN", "NAN"].contains (String.ofList fraction))
    else
      match whole.splitOnP (· == ':') with
      | [digits] => isDigits digits && isFractionExponent fraction
      | digits :: rest =>
        isDigits digits && rest.all isSixtieth && fraction.all fun c => c.isDigit || c == '_'
      | [] => false

/-- Whether a text is spelled as a date or time.  A date alone has two digits for the month and the
day. -/
def isTimestamp (text : List Char) : Bool :=
  match Timestamp.read? text with
  | some (_, true) => true
  | some (_, false) => text.length = 10
  | none => false

/-- The tag of a spelling. -/
def tag (text : List Char) : Tag :=
  let word := String.ofList text
  if booleanWords.contains word then .bool
  else if isFloat text then .float
  else if isInteger text then .int
  else if word == "<<" then .merge
  else if nullWords.contains word then .null
  else if isTimestamp text then .timestamp
  else if word == "=" then .default
  else if word == "!" || word == "&" || word == "*" then .other
  else .str

end Spelling

/-- A text without one line feed at its end, which a spelling may have. -/
def dropLineEnd (text : List Char) : List Char :=
  if text.getLast? == some '\n' then text.dropLast else text

/-- The tag of a scalar by its spelling.  A text that begins with a line feed has none. -/
def implicitTag (text : String) : Tag :=
  if text.toList.head? == some '\n' then .str else Spelling.tag (dropLineEnd text.toList)

end RecordMirror.Yaml
