/-!
Double-precision numbers as exact values, and rounding to them.
-/

namespace RecordMirror

/-- A double-precision number.  A finite one is the significand times a power of two; numbers
rounded to this type have a significand below `2 ^ 53` and an exponent of at least `-1074`, and
a smaller exponent whenever the significand would allow it. -/
inductive Double
  | nan
  | infinite (negative : Bool)
  | finite (negative : Bool) (significand : Nat) (exponent : Int)
deriving DecidableEq, Repr, Inhabited

/-- A natural number times a power of a base, as numerator and denominator. -/
def scaled (base n : Nat) (exponent : Int) : Nat × Nat :=
  (n * Nat.pow base exponent.toNat, Nat.pow base (-exponent).toNat)

/-- A quotient rounded to the nearest natural number, halves to the even one. -/
def roundQuotient (num den : Nat) : Nat :=
  let q := num / den
  let r := num % den
  if 2 * r > den ∨ (2 * r = den ∧ q % 2 = 1) then q + 1 else q

namespace Double

/-- Zero with a sign. -/
def zero (negative : Bool) : Double :=
  .finite negative 0 (-1074)

/-- The double nearest to a quotient, ties to the even significand. -/
def nearest (negative : Bool) (num den : Nat) : Double :=
  if num = 0 ∨ den = 0 then zero negative
  else
    let low : Int := num.log2 - den.log2 - 53
    let fits := num * Nat.pow 2 (-(low + 53)).toNat < den * Nat.pow 2 (low + 53).toNat
    let exponent := max (if fits then low else low + 1) (-1074)
    let significand :=
      roundQuotient (num * Nat.pow 2 (-exponent).toNat) (den * Nat.pow 2 exponent.toNat)
    let (significand, exponent) :=
      if significand = Nat.pow 2 53 then (Nat.pow 2 52, exponent + 1) else (significand, exponent)
    if exponent > 971 then .infinite negative
    else if significand = 0 then zero negative
    else .finite negative significand exponent

/-- The double nearest to `digits * 10 ^ exponent`.  Exponents far outside the range of doubles
are decided without computing the power. -/
def ofDecimal (negative : Bool) (digits : Nat) (exponent : Int) : Double :=
  if digits = 0 then zero negative
  else
    let magnitude : Int := digits.log2 * 3 / 10 + exponent
    if magnitude > 400 then .infinite negative
    else if magnitude < -400 then zero negative
    else
      let (num, den) := scaled 10 digits exponent
      nearest negative num den

/-- The double nearest to an integer. -/
def ofInt (n : Int) : Double :=
  nearest (n < 0) n.natAbs 1

/-- The same number with the other sign. -/
def negate : Double → Double
  | nan => nan
  | infinite negative => infinite (!negative)
  | finite negative significand exponent => finite (!negative) significand exponent

/-- A finite number as a signed numerator over a power of two. -/
def quotient? : Double → Option (Int × Nat)
  | finite negative significand exponent =>
    let (num, den) := scaled 2 significand exponent
    some (if negative then -num else num, den)
  | _ => none

/-- The integer a finite number is, if it has no fraction. -/
def integer? (x : Double) : Option Int :=
  match x.quotient? with
  | some (num, den) => if num % den = 0 then some (num / den) else none
  | none => none

/-- The double nearest to a signed quotient. -/
def nearestSigned (num : Int) (den : Nat) : Double :=
  nearest (num < 0) num.natAbs den

/-- The sum of two numbers, rounded. -/
def add (x y : Double) : Double :=
  match x, y with
  | nan, _ => nan
  | _, nan => nan
  | infinite s, infinite t => if s = t then infinite s else nan
  | infinite s, _ => infinite s
  | _, infinite s => infinite s
  | finite true 0 _, finite true 0 _ => zero true
  | x, y =>
    match x.quotient?, y.quotient? with
    | some (a, b), some (c, d) => nearestSigned (a * d + c * b) (b * d)
    | _, _ => nan

/-- The product of two numbers, rounded. -/
def mul (x y : Double) : Double :=
  match x, y with
  | nan, _ => nan
  | _, nan => nan
  | infinite s, infinite t => infinite (s != t)
  | infinite s, finite t m _ => if m = 0 then nan else infinite (s != t)
  | finite s m _, infinite t => if m = 0 then nan else infinite (s != t)
  | finite s m i, finite t n j =>
    let (num, den) := scaled 2 (m * n) (i + j)
    nearest (s != t) num den

end Double

end RecordMirror
