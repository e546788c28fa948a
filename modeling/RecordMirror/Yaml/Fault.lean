import RecordMirror.Number.Numeral
import RecordMirror.Text.Quoted
/-!
What can be wrong with a YAML text: its form, or a scalar in it that has no value.
-/

namespace RecordMirror.Yaml

/-- Why a scalar has no value although its text is well formed. -/
inductive LiteralFault
  /-- It is no integer in its base. -/
  | numeral (base : Nat) (text : String)
  /-- It is an integer with too many digits. -/
  | longNumeral (digits : Nat)
  /-- It is no float. -/
  | float (text : String)
  /-- It is a float in base sixty with more places than a float can weigh. -/
  | manyPlaces
  /-- It is no word for a boolean. -/
  | boolean (word : String)
  /-- It is a number without anything to read. -/
  | noDigits
  /-- It is not the form of a date or time. -/
  | notATime
  /-- It is a mapping where the text of a date or time is asked for. -/
  | mappingForTime
  /-- It is a mapping that stands for its own text. -/
  | endless
  /-- It is a date or time that does not exist. -/
  | calendar (reason : String)
  /-- It escapes a number that is no character. -/
  | codePoint
  /-- It escapes a number beyond all characters by far. -/
  | hugeCodePoint
deriving DecidableEq, Repr

/-- Why a text has no YAML value. -/
inductive Fault
  | malformed
  | literal (cause : LiteralFault)
deriving DecidableEq, Repr

/-- Text that is no YAML. -/
def malformed {α : Type} : Except Fault α := .error .malformed

/-- The wording of a fault.  Of an integer's text only the beginning is shown. -/
def LiteralFault.message : LiteralFault → String
  | numeral base text =>
    s!"invalid literal for int() with base {base}: " ++
      String.ofList ((quoted text).toList.take 200)
  | longNumeral digits => tooManyDigits (some digits)
  | float text => "could not convert string to float: " ++ quoted text
  | manyPlaces => "int too large to convert to float"
  | boolean word => quoted word
  | noDigits => "string index out of range"
  | notATime => "'NoneType' object has no attribute 'groupdict'"
  | mappingForTime => "expected string or bytes-like object, got 'list'"
  | endless => "maximum recursion depth exceeded"
  | calendar reason => reason
  | codePoint => "chr() arg not in range(0x110000)"
  | hugeCodePoint => "Python int too large to convert to C int"

end RecordMirror.Yaml
