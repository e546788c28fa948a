import RecordMirror.Number.Double
import RecordMirror.Text.Blank
import RecordMirror.Text.DecimalDigit
import RecordMirror.Text.Digits
/-!
Numerals in text: integers in a base and decimal numbers, with an optional sign and between
blanks.  Digits and blanks of all scripts count as those of ASCII.
-/

namespace RecordMirror

/-- The most digits a decimal integer may have to be read or written. -/
def maxDigits : Nat := 4300

/-- The refusal of a decimal integer with too many digits, and their number if it is known. -/
def tooManyDigits (digits : Option Nat) : String :=
  let count := match digits with
    | some n => s!": value has {n} digits"
    | none => ""
  s!"Exceeds the limit ({maxDigits} digits) for integer string conversion{count}; " ++
    "use sys.set_int_max_str_digits() to increase the limit"

/-- Why a text is no integer. -/
inductive NumeralFault
  | malformed
  | tooLong (digits : Nat)
deriving DecidableEq, Repr

namespace Numeral

/-- The blanks of ASCII. -/
def isSpace (c : Char) : Bool :=
  c == ' ' || (9 ≤ c.toNat && c.toNat ≤ 13)

/-- A text with all digits and blanks written as those of ASCII, up to the first character that has
no such form. -/
def plain : List Char → List Char
  | [] => []
  | c :: rest =>
    if c.toNat < 127 then c :: plain rest
    else if isBlank c then ' ' :: plain rest
    else match decimalValue? c with
      | some digit => Char.ofNat (48 + digit) :: plain rest
      | none => ['?']

/-- The value of a digit in a base. -/
def digit? (base : Nat) (c : Char) : Option Nat :=
  (hexValue? c).filter (· < base)

/-- A text without the prefix that names its base. -/
def dropBase (base : Nat) (text : List Char) : List Char :=
  match text with
  | '0' :: mark :: rest =>
    if (base = 2 ∧ (mark == 'b' || mark == 'B')) ∨ (base = 8 ∧ (mark == 'o' || mark == 'O')) ∨
        (base = 16 ∧ (mark == 'x' || mark == 'X')) then rest
    else text
  | _ => text

/-- The integer of a text in a base.  The digits are counted before what follows them is looked
at; only decimal ones are limited. -/
def integer (base : Nat) (text : List Char) : Except NumeralFault Int :=
  let bare := (plain text).dropWhile isSpace
  let numeral := dropBase base (dropSign bare)
  let digits := numeral.takeWhile fun c => (digit? base c).isSome
  if base = 10 ∧ maxDigits < digits.length then .error (.tooLong digits.length)
  else if digits.isEmpty || !(numeral.drop digits.length).all isSpace then .error .malformed
  else
    let n : Nat := digits.foldl (fun n c => base * n + (digit? base c).getD 0) 0
    .ok (if bare.head? == some '-' then -n else n)

/-- The exponent that a text ends in, given what follows its mark; `none` if that is no number. -/
def exponent? (text : List Char) : Option Int :=
  let digits := dropSign text
  if digits.isEmpty || !digits.all Char.isDigit then none
  else
    let n : Int := decimalNumber digits
    some (if text.head? == some '-' then -n else n)

/-- The number of a text of decimal digits with an optional fraction and exponent, or of one of the
words for what is no finite number. -/
def decimal? (text : List Char) : Option Double :=
  let bare := trimBoth isSpace (plain text)
  let negative := bare.head? == some '-'
  let unsigned := dropSign bare
  let word := String.ofList (unsigned.map Char.toLower)
  if word == "inf" || word == "infinity" then some (.infinite negative)
  else if word == "nan" then some .nan
  else
    let mantissa := unsigned.takeWhile fun c => c != 'e' && c != 'E'
    let whole := mantissa.takeWhile (· != '.')
    let fraction := (mantissa.drop whole.length).drop 1
    let digits := whole ++ fraction
    let power :=
      match unsigned.drop mantissa.length with
      | [] => some 0
      | _ :: rest => exponent? rest
    if digits.isEmpty || !digits.all Char.isDigit then none
    else power.map fun exponent =>
      .ofDecimal negative (decimalNumber digits) (exponent - fraction.length)

end Numeral

end RecordMirror
