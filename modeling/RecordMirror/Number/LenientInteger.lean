import RecordMirror.Number.Numeral
/-!
Integers written with some freedom: between white space, with a plus, with zeros before the first
digit, with underscores between digits, and with a fraction of zeros.  All of that is taken off,
one thing after the other; what is left has to be a numeral of the one exact form.  Nothing is
taken off behind a minus but underscores and the fraction.
-/

namespace RecordMirror.LenientInteger

/-- The white space around a numeral: that of Unicode, without the four ASCII separators. -/
def isMargin (c : Char) : Bool :=
  isBlank c && !(28 ≤ c.toNat && c.toNat ≤ 31)

/-- A text without a plus at its head; `none` if a minus follows the plus. -/
def dropPlus? : List Char → Option (List Char)
  | '+' :: '-' :: _ => none
  | '+' :: rest => some rest
  | text => some text

/-- A text without the zeros before its first other digit, and without the underscores among them.
The last of them stays if a point or nothing follows.  `none` if the text begins with neither a
digit nor a minus, or if something else follows its zeros. -/
def dropZeros? : List Char → Option (List Char)
  | '0' :: rest => go '0' rest
  | c :: rest => if c.isDigit || c == '-' then some (c :: rest) else none
  | [] => none
where
  go (last : Char) : List Char → Option (List Char)
    | [] => some [last]
    | c :: rest =>
      if c == '0' || c == '_' then go c rest
      else if c.isDigit then some (c :: rest)
      else if c == '.' then some (last :: c :: rest)
      else none

/-- A text without a point at its end that zeros follow, one at least. -/
def dropFraction (text : List Char) : List Char :=
  let whole := text.takeWhile (· != '.')
  match text.drop whole.length with
  | _ :: '0' :: rest => if rest.all (· == '0') then whole else text
  | _ => text

/-- A text without its underscores, if each of them stands between two other characters. -/
def joinGroups (text : List Char) : List Char :=
  let groups := text.splitOnP (· == '_')
  if groups.any List.isEmpty then text else groups.flatten

/-- The integer of a numeral of the exact form: a zero, or digits that do not begin with one, after
a minus or nothing.  The minus counts as a digit, and the digits are counted before what follows
them is looked at. -/
def exact (text : List Char) : Except NumeralFault Int :=
  let (negative, unsigned) := match text with
    | '-' :: rest => (true, rest)
    | rest => (false, rest)
  let digits := unsigned.takeWhile Char.isDigit
  let width := digits.length + if negative then 1 else 0
  if digits.head? == some '0' && 1 < digits.length then .error .malformed
  else if maxDigits < width then .error (.tooLong width)
  else if digits.isEmpty || digits.length < unsigned.length then .error .malformed
  else
    let n : Nat := decimalNumber digits
    .ok (if negative then -n else n)

/-- The integer that a text denotes. -/
def read (text : List Char) : Except NumeralFault Int :=
  match (dropPlus? (trimBoth isMargin text)).bind dropZeros? with
  | none => .error .malformed
  | some numeral => exact (joinGroups (dropFraction numeral))

end RecordMirror.LenientInteger
