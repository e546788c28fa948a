import RecordMirror.Text.LowerCase
import RecordMirror.Yaml.Fault
import RecordMirror.Yaml.Spelling
import RecordMirror.Yaml.Value
/-!
The value that a tag gives to the text of a scalar.
-/

namespace RecordMirror.Yaml

namespace Literal

/-- The integer that a text is in a base. -/
def numeral (base : Nat) (text : List Char) : Except Fault Int :=
  (Numeral.integer base text).mapError fun
    | .malformed => .literal (.numeral base (String.ofList text))
    | .tooLong digits => .literal (.longNumeral digits)

/-- The sum of digits in base sixty, the last one first. -/
def fromSixtieths (digits : List Int) : Int :=
  digits.foldr (fun digit rest => digit + 60 * rest) 0

/-- The integer of a text. -/
def integer (text : List Char) : Except Fault Int := do
  let bare := text.filter (· != '_')
  if bare.isEmpty then .error (.literal .noDigits)
  let negative := bare.head? == some '-'
  let digits := dropSign bare
  let magnitude ← match digits with
    | [] => .error (.literal .noDigits)
    | ['0'] => .ok 0
    | '0' :: 'b' :: rest => numeral 2 rest
    | '0' :: 'x' :: rest => numeral 16 rest
    | '0' :: _ => numeral 8 digits
    | _ =>
      if digits.contains ':' then do
        let parts ← (digits.splitOnP (· == ':')).mapM (numeral 10)
        pure (fromSixtieths parts.reverse)
      else numeral 10 digits
  return if negative then -magnitude else magnitude

/-- The float that a text is in decimal form. -/
def decimal (text : List Char) : Except Fault Double :=
  match Numeral.decimal? text with
  | some x => .ok x
  | none => .error (.literal (.float (String.ofList text)))

/-- The sum of floats in base sixty, the last one first, rounded after each step.  The weight of a
place has to be a float itself. -/
def sumSixtieths (digits : List Double) : Except Fault Double := do
  let (sum, _) ← digits.foldlM (fun ((sum, weight) : Double × Nat) digit =>
    match Double.ofInt weight with
    | .infinite _ => .error (.literal .manyPlaces)
    | factor => .ok (sum.add (digit.mul factor), weight * 60)) (Double.zero false, 1)
  return sum

/-- The float of the text of a node. -/
def float (source : Nat) (text : List Char) : Except Fault Value := do
  let bare := lowerCase (text.filter (· != '_'))
  if bare.isEmpty then .error (.literal .noDigits)
  let negative := bare.head? == some '-'
  let digits := dropSign bare
  if digits == ".inf".toList then return .float (.infinite negative)
  else if digits == ".nan".toList then return .nan none
  else
    let x ←
      if digits.contains ':' then do
        let parts ← (digits.splitOnP (· == ':')).mapM decimal
        sumSixtieths parts.reverse
      else decimal digits
    return .ofDouble source (if negative then x.negate else x)

/-- The boolean of a text. -/
def boolean (text : List Char) : Except Fault Bool :=
  let word := String.ofList (lowerCase text)
  if ["yes", "true", "on"].contains word then .ok true
  else if ["no", "false", "off"].contains word then .ok false
  else .error (.literal (.boolean word))

/-- The date or time of a text, which may have a line feed at its end. -/
def timestamp (text : List Char) : Except Fault Value :=
  match Timestamp.read? (dropLineEnd text) with
  | none => .error (.literal .notATime)
  | some (t, timed) =>
    match t.calendarFault? timed with
    | some reason => .error (.literal (.calendar reason))
    | none => .ok (if timed then .timestamp t else .date t.year t.month t.day)

/-- The six bits of a character of encoded bytes. -/
def sixBits? (c : Char) : Option Nat :=
  if 'A' ≤ c ∧ c ≤ 'Z' then some (c.toNat - 65)
  else if 'a' ≤ c ∧ c ≤ 'z' then some (c.toNat - 71)
  else if '0' ≤ c ∧ c ≤ '9' then some (c.toNat + 4)
  else if c = '+' then some 62
  else if c = '/' then some 63
  else none

/-- Decodes bytes in groups of four characters.  `group` holds the bits of the current group and
`pads` counts the padding signs since its last character.  Other characters are skipped, and what
follows a padded group does not count. -/
def decodeBytes : List Char → List Nat → Nat → Except Fault (List Nat)
  | [], group, _ => if group.isEmpty then .ok [] else malformed
  | c :: rest, group, pads =>
    if c = '=' then
      if 2 ≤ group.length ∧ 4 ≤ group.length + pads + 1 then
        match group with
        | [a, b] => .ok [a * 4 + b / 16]
        | [a, b, d] => .ok [a * 4 + b / 16, b % 16 * 16 + d / 4]
        | _ => .ok []
      else decodeBytes rest group (if 2 ≤ group.length then pads + 1 else pads)
    else match sixBits? c, group with
      | none, _ => decodeBytes rest group pads
      | some d, [a, b, c] => do
        let bytes ← decodeBytes rest [] 0
        return (a * 4 + b / 16) :: (b % 16 * 16 + c / 4) :: (c % 4 * 64 + d) :: bytes
      | some d, group => decodeBytes rest (group ++ [d]) 0

/-- The value that a tag gives to the text of a node. -/
def value (source : Nat) (tag : Tag) (text : String) : Except Fault Value :=
  let chars := text.toList
  match tag with
  | .null => .ok .null
  | .bool => (boolean chars).map .bool
  | .int => (integer chars).map .integer
  | .float => float source chars
  | .timestamp => timestamp chars
  | .binary =>
    if chars.all (·.toNat < 128) then (decodeBytes chars [] 0).map .bytes else malformed
  | .str => .ok (.text text)
  | _ => malformed

end Literal

end RecordMirror.Yaml
