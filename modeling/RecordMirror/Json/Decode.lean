import RecordMirror.Json
import RecordMirror.Number.LenientInteger
/-!
Reading data models from JSON.  Everything that does not fit is reported, each mismatch with the
path to it, in the order of the model's parts.
-/

namespace RecordMirror

/-- How a JSON value can fail to fit. -/
inductive Mismatch
  | missing
  | notAnObject
  | notText
  | notAList
  | notATuple
  | notAChoice
  | notABoolean
  | unreadableBoolean
  | notAnInteger
  | unreadableInteger
  | fractionalInteger
  | infiniteInteger
  | hugeInteger
  | notAType
  | untaggedType
  | unknownTypeTag
deriving DecidableEq, Repr

/-- One step into a JSON value. -/
inductive PathStep
  | name (text : String)
  | index (n : Nat)
deriving DecidableEq, Repr

/-- A mismatch and the path to it. -/
structure Issue where
  mismatch : Mismatch
  path : List PathStep
deriving DecidableEq, Repr

/-- A decoded value, or all that does not fit. -/
inductive Decoded (α : Type)
  | ok (value : α)
  | bad (issues : List Issue)
deriving Repr

namespace Decoded

/-- A value that does not fit where it stands. -/
def fail {α : Type} (mismatch : Mismatch) : Decoded α :=
  .bad [⟨mismatch, []⟩]

/-- Applies a function to a decoded value. -/
def map {α β : Type} (f : α → β) : Decoded α → Decoded β
  | ok value => ok (f value)
  | bad issues => bad issues

/-- Applies a decoded function to a decoded value; the issues of both are kept. -/
def seq {α β : Type} (f : Decoded (α → β)) (x : Unit → Decoded α) : Decoded β :=
  match f, x () with
  | ok f, ok value => ok (f value)
  | ok _, bad issues => bad issues
  | bad issues, ok _ => bad issues
  | bad issues, bad more => bad (issues ++ more)

instance : Applicative Decoded where
  pure := ok
  map := map
  seq := seq

/-- Puts a step before the paths of all issues. -/
def within {α : Type} (step : PathStep) : Decoded α → Decoded α
  | ok value => ok value
  | bad issues => bad (issues.map fun issue => { issue with path := step :: issue.path })

/-- The value as an outcome. -/
def toExcept {α : Type} : Decoded α → Except (List Issue) α
  | ok value => .ok value
  | bad issues => .error issues

@[simp] theorem toExcept_ok {α : Type} (value : α) : (ok value).toExcept = .ok value := rfl

end Decoded

namespace Json

/-- Decodes text. -/
def toText : Json → Decoded String
  | string s => .ok s
  | _ => .fail .notText

/-- Decodes text that may be absent. -/
def toText? : Json → Decoded (Option String)
  | null => .ok none
  | value => value.toText.map some

/-- The words that stand for a boolean, in any case of their ASCII letters. -/
def booleanWord? (text : String) : Option Bool :=
  let word := String.ofList (text.toList.map Char.toLower)
  if ["0", "off", "f", "false", "n", "no"].contains word then some false
  else if ["1", "on", "t", "true", "y", "yes"].contains word then some true
  else none

/-- Decodes a boolean from a boolean, a number that is zero or one, or a word.  Numbers with a
fraction, or beyond the range of machine integers, are not even looked at; for a float that range
has no ends. -/
def toBoolean : Json → Decoded Bool
  | bool b => .ok b
  | integer n => if -Int.pow 2 63 ≤ n ∧ n < Int.pow 2 63 then ofInteger n else .fail .notABoolean
  | float x =>
    match x.integer? with
    | some n => if n.natAbs < Nat.pow 2 63 then ofInteger n else .fail .notABoolean
    | none => .fail .notABoolean
  | string s =>
    match booleanWord? s with
    | some b => .ok b
    | none => .fail .unreadableBoolean
  | _ => .fail .notABoolean
where
  ofInteger (n : Int) : Decoded Bool :=
    if n = 0 then .ok false else if n = 1 then .ok true else .fail .unreadableBoolean

/-- Decodes an integer from an integer, a boolean, a float without fraction, or a text. -/
def toInteger : Json → Decoded Int
  | integer n => .ok n
  | bool b => .ok (if b then 1 else 0)
  | float x =>
    match x with
    | .finite .. =>
      match x.integer? with
      | some n => if n.natAbs < Nat.pow 2 63 then .ok n else .fail .hugeInteger
      | none => .fail .fractionalInteger
    | _ => .fail .infiniteInteger
  | string s =>
    match LenientInteger.read s.toList with
    | .ok n => .ok n
    | .error .malformed => .fail .unreadableInteger
    | .error (.tooLong _) => .fail .hugeInteger
  | _ => .fail .notAnInteger

/-- Decodes one of a set of named choices. -/
def toChoice {α : Type} (ofName? : String → Option α) : Json → Decoded α
  | string s =>
    match ofName? s with
    | some choice => .ok choice
    | none => .fail .notAChoice
  | _ => .fail .notAChoice

/-- Decodes the items of an array, the first of which has the given index. -/
def decodeItems {α : Type} (decode : Json → Decoded α) : Nat → List Json → Decoded (List α)
  | _, [] => .ok []
  | n, item :: rest =>
    List.cons <$> (decode item).within (.index n) <*> decodeItems decode (n + 1) rest

/-- Decodes a list. -/
def toListOf {α : Type} (decode : Json → Decoded α) : Json → Decoded (List α)
  | array items => decodeItems decode 0 items
  | _ => .fail .notAList

/-- Decodes a tuple of any length. -/
def toTupleOf {α : Type} (decode : Json → Decoded α) : Json → Decoded (List α)
  | array items => decodeItems decode 0 items
  | _ => .fail .notATuple

/-- Decodes a member that an object must have. -/
def required {α : Type} (members : List (String × Json)) (name : String)
    (decode : Json → Decoded α) : Decoded α :=
  match member? members name with
  | some value => (decode value).within (.name name)
  | none => .bad [⟨.missing, [.name name]⟩]

/-- Decodes a member that has a default. -/
def optional {α : Type} (members : List (String × Json)) (name : String) (default : α)
    (decode : Json → Decoded α) : Decoded α :=
  match member? members name with
  | some value => (decode value).within (.name name)
  | none => .ok default

end Json

end RecordMirror
