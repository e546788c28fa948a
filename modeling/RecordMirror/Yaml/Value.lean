import RecordMirror.Number.Shortest
import RecordMirror.Number.Numeral
import RecordMirror.Text.Quoted
import RecordMirror.Yaml.Timestamp
/-!
The values of YAML nodes: which of them are the same key, how keys are ordered and how messages
show them.
-/

namespace RecordMirror.Yaml

/-- A YAML value. -/
inductive Value
  | null
  | bool (b : Bool)
  | integer (n : Int)
  | float (x : Double)
  /-- A float that is no number.  The one that is written as such is always the same; one that was
  computed is known by the node it came from. -/
  | nan (source : Option Nat)
  | text (s : String)
  | date (year month day : Nat)
  | timestamp (t : Timestamp)
  | bytes (b : List Nat)
  /-- A sequence, set or mapping inside a document.  Nothing but its being one is ever asked for. -/
  | collection
deriving DecidableEq, Repr, Inhabited

/-- Why two values have no order. -/
inductive OrderFault
  | unlike
  | timeAndDate
  | zoneAndNone
deriving DecidableEq, Repr

/-- The wording of the faults that have one. -/
def OrderFault.message? : OrderFault → Option String
  | unlike => none
  | timeAndDate => some "can't compare datetime.datetime to datetime.date"
  | zoneAndNone => some "can't compare offset-naive and offset-aware datetimes"

namespace Value

/-- The value of a double that was computed for a node. -/
def ofDouble (source : Nat) (x : Double) : Value :=
  if x = .nan then .nan (some source) else .float x

/-- The place of a number in the order of all numbers: on which side of the finite ones it is, and
the quotient that a finite one is.  Booleans count as zero and one. -/
def number? : Value → Option (Int × Int × Nat)
  | integer n => some (0, n, 1)
  | bool b => some (0, if b then 1 else 0, 1)
  | float x =>
    match x, x.quotient? with
    | _, some (num, den) => some (0, num, den)
    | .infinite negative, none => some (if negative then -1 else 1, 0, 1)
    | _, none => some (2, 0, 1)
  | nan _ => some (2, 0, 1)
  | _ => none

/-- Compares two numbers by value. -/
def compareNumbers (a b : Int × Int × Nat) : Ordering :=
  (compare a.1 b.1).then (compare (a.2.1 * b.2.2) (b.2.1 * a.2.2))

/-- Whether two values are the same key.  Numbers are compared by value, whatever their type, and
times with known offsets by the instant. -/
def sameKey (a b : Value) : Bool :=
  match a, b with
  | null, null => true
  | text s, text t => s == t
  | nan s, nan t => s == t
  | date y m d, date y' m' d' => y == y' && m == m' && d == d'
  | timestamp t, timestamp u => t.offset.isSome == u.offset.isSome && t.instant == u.instant
  | bytes s, bytes t => s == t
  | a, b =>
    match a.number?, b.number? with
    | some m, some n => compareNumbers m n == .eq
    | _, _ => false

/-- Whether a value can be a key: collections cannot. -/
def isKey (v : Value) : Bool :=
  v != collection

/-- Sets the value of a key; a new key goes to the end. -/
def insertKey (key value : Value) : List (Value × Value) → List (Value × Value)
  | [] => [(key, value)]
  | (other, old) :: rest =>
    if sameKey other key then (other, value) :: rest else (other, old) :: insertKey key value rest

/-- The value of a key. -/
def lookup (key : Value) (pairs : List (Value × Value)) : Option Value :=
  (pairs.find? fun pair => sameKey pair.1 key).map (·.2)

/-- The order of two values, if they have one. -/
def order (a b : Value) : Except OrderFault Ordering :=
  match a, b with
  | text s, text t => .ok (compare s t)
  | bytes s, bytes t => .ok (compareOfLessAndEq s t)
  | date y m d, date y' m' d' => .ok (compare (dayNumber y m d) (dayNumber y' m' d'))
  | timestamp t, timestamp u =>
    if t.offset.isSome = u.offset.isSome then .ok (compare t.instant u.instant)
    else .error .zoneAndNone
  | timestamp _, date .. => .error .timeAndDate
  | date .., timestamp _ => .error .timeAndDate
  | a, b =>
    match a.number?, b.number? with
    | some m, some n => .ok (compareNumbers m n)
    | _, _ => .error .unlike

/-- How messages show bytes: as ASCII text with a mark before it, all else escaped. -/
def describeBytes (bytes : List Nat) : String :=
  let quote := quoteFor (bytes.map Char.ofNat)
  let shown (n : Nat) : List Char :=
    if n < 127 then quotedChar quote (Char.ofNat n) else '\\' :: 'x' :: hexDigits 2 n
  String.ofList ('b' :: quote :: bytes.flatMap shown ++ [quote])

/-- Whether a value is an integer with too many digits to be shown. -/
def isTooLong : Value → Bool
  | integer n => Nat.pow 10 maxDigits ≤ n.natAbs
  | _ => false

/-- How messages show a key. -/
def describe : Value → String
  | null => "None"
  | bool b => if b then "True" else "False"
  | integer n => toString n
  | float x => x.text
  | nan _ => "nan"
  | text s => s
  | date year month day => describeDate year month day
  | timestamp t => t.describe
  | bytes b => describeBytes b
  | collection => ""

end Value

end RecordMirror.Yaml
