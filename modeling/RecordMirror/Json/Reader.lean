import RecordMirror.Json
import RecordMirror.Number.Numeral
import RecordMirror.Text.Position
/-!
Reading JSON.  Beside the standard grammar, `NaN`, `Infinity` and `-Infinity` are numbers.  A
failure names what was expected and the offset at which it was missing.
-/

namespace RecordMirror

/-- What can be wrong in a JSON text. -/
inductive JsonFault
  | byteOrderMark
  | expectedValue
  | expectedName
  | expectedColon
  | expectedComma
  | openString
  | controlCharacter
  | escape
  | unicodeEscape
  | extraData
deriving DecidableEq, Repr

/-- The wording of a fault. -/
def JsonFault.message : JsonFault → String
  | byteOrderMark => "Unexpected UTF-8 BOM (decode using utf-8-sig)"
  | expectedValue => "Expecting value"
  | expectedName => "Expecting property name enclosed in double quotes"
  | expectedColon => "Expecting ':' delimiter"
  | expectedComma => "Expecting ',' delimiter"
  | openString => "Unterminated string starting at"
  | controlCharacter => "Invalid control character at"
  | escape => "Invalid \\escape"
  | unicodeEscape => "Invalid \\uXXXX escape"
  | extraData => "Extra data"

/-- Why a text is no JSON value: a fault with its place and its offset, or a numeral of too many
digits. -/
inductive JsonError
  | malformed (fault : JsonFault) (position : Position) (offset : Nat)
  | longNumeral (digits : Nat)
deriving DecidableEq, Repr

/-- The wording of an error. -/
def JsonError.message : JsonError → String
  | malformed fault position offset =>
    s!"{fault.message}: line {position.line} column {position.column} (char {offset})"
  | longNumeral digits => tooManyDigits (some digits)

namespace Json

/-- Failure while reading: a fault and how many characters were left at its place, or a numeral
with too many digits. -/
inductive Failure
  | at (fault : JsonFault) (left : Nat)
  | longNumeral (digits : Nat)
deriving DecidableEq, Repr

/-- The white space between tokens. -/
def isSpace (c : Char) : Bool :=
  c == ' ' || c == '\t' || c == '\n' || c == '\r'

/-- A text without the white space at its head. -/
def skipSpace (text : List Char) : List Char :=
  text.dropWhile isSpace

/-- The character a one-letter escape stands for. -/
def escaped? : Char → Option Char
  | '"' => some '"'
  | '\\' => some '\\'
  | '/' => some '/'
  | 'b' => some '\x08'
  | 'f' => some '\x0c'
  | 'n' => some '\n'
  | 'r' => some '\r'
  | 't' => some '\t'
  | _ => none

/-- Reads the units of a string whose opening quote has been read: code points, and sixteen-bit
units where the text escapes them.  A Unicode escape needs a further character after its four
digits. -/
def readUnits : List Char → Except Failure (List Nat × List Char)
  | [] => .error (.at .openString 0)
  | '"' :: rest => .ok ([], rest)
  | '\\' :: [] => .error (.at .openString 0)
  | '\\' :: 'u' :: a :: b :: c :: d :: next :: rest =>
    match hexNumber? [a, b, c, d] with
    | none => .error (.at .unicodeEscape (rest.length + 6))
    | some unit => (readUnits (next :: rest)).map fun (units, left) => (unit :: units, left)
  | '\\' :: 'u' :: rest => .error (.at .unicodeEscape (rest.length + 1))
  | '\\' :: c :: rest =>
    match escaped? c with
    | none => .error (.at .escape (rest.length + 2))
    | some c => (readUnits rest).map fun (units, left) => (c.toNat :: units, left)
  | c :: rest =>
    if c.toNat < 32 then .error (.at .controlCharacter (rest.length + 1))
    else (readUnits rest).map fun (units, left) => (c.toNat :: units, left)

/-- The characters of a list of units.  A high surrogate and a low one after it are one
character; one that stands alone is replaced. -/
def joinUnits : List Nat → List Char
  | [] => []
  | [unit] => [ofUnit unit]
  | high :: low :: rest =>
    if 0xd800 ≤ high ∧ high < 0xdc00 ∧ 0xdc00 ≤ low ∧ low < 0xe000 then
      Char.ofNat (0x10000 + (high - 0xd800) * 0x400 + (low - 0xdc00)) :: joinUnits rest
    else ofUnit high :: joinUnits (low :: rest)
where
  ofUnit (unit : Nat) : Char :=
    if 0xd800 ≤ unit ∧ unit < 0xe000 then '\ufffd' else Char.ofNat unit

/-- The failure of a string whose opening quote stands before `text`: that the string is open is
said of its opening quote. -/
def Failure.ofString (text : List Char) : Failure → Failure
  | .at .openString _ => .at .openString (text.length + 1)
  | failure => failure

/-- Reads a string whose opening quote has been read. -/
def readString (text : List Char) : Except Failure (String × List Char) :=
  match readUnits text with
  | .error failure => .error (failure.ofString text)
  | .ok (units, left) => .ok (String.ofList (joinUnits units), left)

/-- Reads the digits at the head of a text. -/
def readDigits (text : List Char) : List Char × List Char :=
  (text.takeWhile Char.isDigit, text.dropWhile Char.isDigit)

/-- Reads the fraction of a number, if there is one. -/
def readFraction (text : List Char) : Option (List Char × List Char) :=
  match text with
  | '.' :: d :: rest => if d.isDigit then some (readDigits (d :: rest)) else none
  | _ => none

/-- Reads the sign of an exponent, if there is one; `true` is minus. -/
def readSign (text : List Char) : Bool × List Char :=
  match text with
  | '-' :: rest => (true, rest)
  | '+' :: rest => (false, rest)
  | rest => (false, rest)

/-- Reads the exponent of a number, if there is one. -/
def readExponent (text : List Char) : Option (Int × List Char) :=
  match text with
  | e :: rest =>
    if e = 'e' ∨ e = 'E' then
      let sign := readSign rest
      let digits := readDigits sign.2
      if digits.1.isEmpty then none
      else
        let power : Int := decimalNumber digits.1
        some (if sign.1 then -power else power, digits.2)
    else none
  | [] => none

/-- Reads the digits before the point: a zero alone, or digits that do not begin with one. -/
def readWhole (text : List Char) : Option (List Char × List Char) :=
  match text with
  | '0' :: rest => some (['0'], rest)
  | d :: rest => if d.isDigit then some (readDigits (d :: rest)) else none
  | [] => none

/-- Reads the rest of a number whose sign has been read.  With a fraction or an exponent it is a
float. -/
def readNumber (negative : Bool) (text : List Char) :
    Option (Except Failure (Json × List Char)) :=
  match readWhole text with
  | none => none
  | some (whole, rest) =>
    let (fraction, rest, isFloat) :=
      match readFraction rest with
      | some (fraction, rest) => (fraction, rest, true)
      | none => ([], rest, false)
    let (power, rest, isFloat) :=
      match readExponent rest with
      | some (power, rest) => (power, rest, true)
      | none => (0, rest, isFloat)
    let digits := decimalNumber (whole ++ fraction)
    some (
      if isFloat then
        .ok (.float (.ofDecimal negative digits (power - fraction.length)), rest)
      else if whole.length > maxDigits then .error (.longNumeral whole.length)
      else .ok (.integer (if negative then -digits else digits), rest))

/-- The names that are values, and their values. -/
def names : List (List Char × Json) :=
  [("null".toList, .null), ("true".toList, .bool true), ("false".toList, .bool false),
    ("NaN".toList, .float .nan), ("Infinity".toList, .float (.infinite false)),
    ("-Infinity".toList, .float (.infinite true))]

/-- Reads a value that is a name or a number. -/
def readScalar (text : List Char) : Except Failure (Json × List Char) :=
  match names.find? (fun name => name.1.isPrefixOf text) with
  | some (name, value) => .ok (value, text.drop name.length)
  | none =>
    let number :=
      match text with
      | '-' :: rest => readNumber true rest
      | _ => readNumber false text
    number.getD (.error (.at .expectedValue text.length))

mutual

/-- Reads a value at the head of a text.  The bound is at least the number of characters left; where
it is zero, the text has come to its end. -/
def readValue : Nat → List Char → Except Failure (Json × List Char)
  | 0, text => .error (.at .expectedValue text.length)
  | bound + 1, text =>
    match text with
    | '"' :: rest => (readString rest).map fun (s, left) => (.string s, left)
    | '[' :: rest =>
      match skipSpace rest with
      | ']' :: left => .ok (.array [], left)
      | inside => do
        let (first, left) ← readValue bound inside
        let (items, left) ← readItems bound left
        return (.array (first :: items), left)
    | '\x7b' :: rest =>
      match skipSpace rest with
      | '\x7d' :: left => .ok (.object [], left)
      | inside => do
        let (first, left) ← readMember bound inside
        let (members, left) ← readMembers bound left
        return (.ofMembers (first :: members), left)
    | text => readScalar text

/-- Reads the items after the first one, and the closing bracket. -/
def readItems : Nat → List Char → Except Failure (List Json × List Char)
  | 0, text => .error (.at .expectedComma text.length)
  | bound + 1, text =>
    match skipSpace text with
    | ']' :: left => .ok ([], left)
    | ',' :: rest => do
      let (item, left) ← readValue bound (skipSpace rest)
      let (items, left) ← readItems bound left
      return (item :: items, left)
    | rest => .error (.at .expectedComma rest.length)

/-- Reads a member of an object. -/
def readMember : Nat → List Char → Except Failure ((String × Json) × List Char)
  | 0, text => .error (.at .expectedName text.length)
  | bound + 1, text =>
    match text with
    | '"' :: rest => do
      let (name, left) ← readString rest
      match skipSpace left with
      | ':' :: rest =>
        let (value, left) ← readValue bound (skipSpace rest)
        return ((name, value), left)
      | rest => .error (.at .expectedColon rest.length)
    | text => .error (.at .expectedName text.length)

/-- Reads the members after the first one, and the closing brace. -/
def readMembers : Nat → List Char → Except Failure (List (String × Json) × List Char)
  | 0, text => .error (.at .expectedComma text.length)
  | bound + 1, text =>
    match skipSpace text with
    | '\x7d' :: left => .ok ([], left)
    | ',' :: rest => do
      let (member, left) ← readMember bound (skipSpace rest)
      let (members, left) ← readMembers bound left
      return (member :: members, left)
    | rest => .error (.at .expectedComma rest.length)

end

/-- A failure as an error: its place and offset in the text it arose in. -/
def Failure.inText (text : List Char) : Failure → JsonError
  | .at fault left =>
    let before := text.take (text.length - left)
    .malformed fault (Position.start.after before) before.length
  | .longNumeral digits => .longNumeral digits

/-- The value that the characters of a text denote. -/
def parseChars (text : List Char) : Except JsonError Json :=
  match text with
  | '\ufeff' :: _ => .error (.malformed .byteOrderMark .start 0)
  | _ =>
    match readValue text.length (skipSpace text) with
    | .error failure => .error (failure.inText text)
    | .ok (value, left) =>
      match skipSpace left with
      | [] => .ok value
      | rest => .error ((Failure.at .extraData rest.length).inText text)

/-- The value a text denotes. -/
def parse (text : String) : Except JsonError Json :=
  parseChars text.toList

end Json

end RecordMirror
