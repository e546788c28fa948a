import RecordMirror.Number.Double
/-!
The text of a double: the fewest significant digits that read back to it, the nearest such
decimal if there are several, laid out positionally for moderate exponents.
-/

namespace RecordMirror

/-- Compares two scaled naturals `a * 10 ^ i` and `b * 2 ^ j`. -/
def compareScaled (a : Nat) (i : Int) (b : Nat) (j : Int) : Ordering :=
  compare (a * Nat.pow 10 i.toNat * Nat.pow 2 (-j).toNat)
    (b * Nat.pow 2 j.toNat * Nat.pow 10 (-i).toNat)

/-- Whether a decimal lies among the reals that round to `m * 2 ^ q`.  The interval reaches
halfway to both neighbours, the lower one being half as far below a power of two, and includes
its ends when the significand is even. -/
def readsBack (m : Nat) (q : Int) (digits : Nat) (exponent : Int) : Bool :=
  let low := if m = Nat.pow 2 52 ∧ q > -1074 then 4 * m - 1 else 4 * m - 2
  let fromLow := compareScaled digits exponent low (q - 2)
  let fromHigh := compareScaled digits exponent (4 * m + 2) (q - 2)
  let even := m % 2 = 0
  (fromLow == .gt || (even && fromLow == .eq)) && (fromHigh == .lt || (even && fromHigh == .eq))

/-- The least `k` with `m * 2 ^ q < 10 ^ k`, for a positive `m`.  The binary logarithm leaves
only a few candidates. -/
def decimalScale (m : Nat) (q : Int) : Int :=
  let estimate : Int := (m.log2 + q) * 30103 / 100000
  let candidates := [estimate - 1, estimate, estimate + 1, estimate + 2]
  (candidates.find? fun k => compareScaled 1 k m q == .gt).getD (estimate + 3)

/-- The decimal with the given number of digits that reads back and is nearest, if any does. -/
def decimalOfLength (m : Nat) (q scale : Int) (length : Nat) : Option (Nat × Int) :=
  let exponent := scale - length
  let floor := m * Nat.pow 2 q.toNat * Nat.pow 10 (-exponent).toNat /
    (Nat.pow 2 (-q).toNat * Nat.pow 10 exponent.toNat)
  match readsBack m q floor exponent, readsBack m q (floor + 1) exponent with
  | true, true =>
    match compareScaled (2 * floor + 1) exponent (2 * m) q with
    | .gt => some (floor, exponent)
    | .lt => some (floor + 1, exponent)
    | .eq => some (if floor % 2 = 0 then floor else floor + 1, exponent)
  | true, false => some (floor, exponent)
  | false, true => some (floor + 1, exponent)
  | false, false => none

/-- The shortest decimal that reads back to `m * 2 ^ q`. -/
def shortestDecimal (m : Nat) (q : Int) : Nat × Int :=
  let scale := decimalScale m q
  (((List.range 17).findSome? fun n => decimalOfLength m q scale (n + 1))).getD
    (m * Nat.pow 2 q.toNat * Nat.pow 5 (-q).toNat, min q 0)

/-- A text of digits with a point before position `point`, padded with zeros where the point lies
outside the digits, and with at least one digit on each side of it. -/
def placePoint (digits : List Char) (point : Int) : List Char :=
  if point ≤ 0 then '0' :: '.' :: (List.replicate (-point).toNat '0' ++ digits)
  else
    let n := point.toNat
    if digits.length ≤ n then digits ++ List.replicate (n - digits.length) '0' ++ ['.', '0']
    else digits.take n ++ '.' :: digits.drop n

/-- Digits in scientific form, the exponent signed and of two digits at least. -/
def placeExponent (digits : List Char) (exponent : Int) : List Char :=
  let mantissa :=
    match digits with
    | [] => []
    | [d] => [d]
    | d :: rest => d :: '.' :: rest
  let power := (toString exponent.natAbs).toList
  mantissa ++ 'e' :: (if exponent < 0 then '-' else '+') ::
    (if power.length < 2 then '0' :: power else power)

namespace Double

/-- The text of a double: positional from `10 ^ -4` up to below `10 ^ 16`, else scientific. -/
def text : Double → String
  | nan => "nan"
  | infinite negative => if negative then "-inf" else "inf"
  | finite negative significand exponent =>
    let sign := if negative then "-" else ""
    if significand = 0 then sign ++ "0.0"
    else
      let (digits, power) := shortestDecimal significand exponent
      let written := (toString digits).toList
      let point := power + written.length
      let kept := trimEnd written
      sign ++ String.ofList
        (if -4 < point ∧ point ≤ 16 then placePoint kept point else placeExponent kept (point - 1))
where
  /-- Digits without the zeros at their end. -/
  trimEnd (digits : List Char) : List Char :=
    (digits.reverse.dropWhile (· == '0')).reverse

end Double

end RecordMirror
