import RecordMirror.Token.Scan
import RecordMirror.TypeExpr
/-!
Reading declared types.  The grammar, over the tokens of the text:

* a type is a base, or a base that is no optional followed by a question mark;
* a base is a type name, or one of the wrappers `List`, `MutableSet`, `Optional` and `Map` with
  its arguments between angle brackets;
* an `Optional` does not wrap an optional, and the key of a `Map` is a single type name.
-/

namespace RecordMirror

/-- The names that take type arguments. -/
inductive Wrapper
  | list
  | set
  | optional
  | map
deriving DecidableEq, Repr

namespace Wrapper

/-- The name of a wrapper in declared types. -/
def name : Wrapper → String
  | list => "List"
  | set => "MutableSet"
  | optional => "Optional"
  | map => "Map"

/-- The wrapper of a name. -/
def ofName? (text : String) : Option Wrapper :=
  [list, set, optional, map].find? (·.name == text)

end Wrapper

/-- What can be wrong at a token of a declared type. -/
inductive TypeFault
  | expectedName (found : Token)
  | expectedArguments (wrapper : Wrapper)
  | expectedClosing (found : Token)
  | argumentCount (wrapper : Wrapper) (count : Nat)
  | mapArgumentCount (count : Nat)
  | mapKey
  | nestedOptional
  | trailing (found : Token)
deriving DecidableEq, Repr

/-- How messages on a declared type quote the token that was found. -/
def Token.foundInType (t : Token) : String :=
  quoted (if t.kind = .eof then "end of type" else t.text)

namespace TypeFault

/-- The wording of a fault. -/
def message : TypeFault → String
  | expectedName found => "expected a type name, got " ++ found.foundInType
  | expectedArguments wrapper => "expected '<' after " ++ quoted wrapper.name
  | expectedClosing found => "expected ',' or '>', got " ++ found.foundInType
  | argumentCount wrapper count =>
    quoted wrapper.name ++ " takes exactly one type argument, got " ++ toString count
  | mapArgumentCount count => "'Map' takes exactly two type arguments, got " ++ toString count
  | mapKey => "'Map' keys must be a scalar type name"
  | nestedOptional => "an optional type cannot be optional again"
  | trailing found => "unexpected " ++ quoted found.text ++ " after type"

/-- Whether a fault says that a map is malformed. -/
def isMapFault : TypeFault → Bool
  | mapArgumentCount _ => true
  | mapKey => true
  | _ => false

end TypeFault

/-- Why a text is no declared type. -/
inductive TypeTextError
  | unscannable (text : String) (cause : ScanError)
  | empty (text : String)
  | malformed (text : String) (fault : TypeFault) (column : Nat)
deriving DecidableEq, Repr

namespace TypeTextError

/-- The text that was refused. -/
def text : TypeTextError → String
  | unscannable text _ => text
  | empty text => text
  | malformed text _ _ => text

/-- The wording of the error: the text, then what is wrong with it and in which column. -/
def message (e : TypeTextError) : String :=
  "Cannot parse type " ++ quoted e.text ++ ": " ++
    match e with
    | unscannable _ cause => cause.message
    | empty _ => "empty type"
    | malformed _ fault column => s!"{fault.message} (column {column})"

/-- Whether the error says that a map is malformed. -/
def isMapFault : TypeTextError → Bool
  | malformed _ fault _ => fault.isMapFault
  | _ => false

end TypeTextError

/-- The type a wrapper makes of its arguments. -/
def Wrapper.apply (wrapper : Wrapper) (arguments : List TypeExpr) : Except TypeFault TypeExpr :=
  match wrapper, arguments with
  | .map, [key, value] => if key.isScalar then .ok (.map key value) else .error .mapKey
  | .map, _ => .error (.mapArgumentCount arguments.length)
  | .list, [element] => .ok (.list element)
  | .set, [element] => .ok (.set element)
  | .optional, [inner] =>
    if inner.isOptional then .error .nestedOptional else .ok (.optional inner)
  | _, _ => .error (.argumentCount wrapper arguments.length)

namespace TypeExpr

/-- The scalar a name denotes: a primitive by its name, else the record of that name. -/
def ofName (name : String) : TypeExpr :=
  match Primitive.ofName? name with
  | some type => .primitive type
  | none => .reference name

/-- What reading at the head of a token list gives: a value and the tokens left, or a fault and
the column it is reported at. -/
abbrev Reading (α : Type) : Type :=
  Except (TypeFault × Nat) (α × List Token)

/-- A fault reported at the token a reader looks at. -/
def faultAt (stop : Position) (tokens : List Token) (fault : TypeFault) : TypeFault × Nat :=
  (fault, (currentToken stop tokens).position.column)

/-- Reads the question mark that makes a base optional, if there is one. -/
def readMark (stop : Position) (base : TypeExpr) (tokens : List Token) : Reading TypeExpr :=
  match tokens with
  | ⟨.question, _, _⟩ :: rest =>
    if base.isOptional then .error (faultAt stop tokens .nestedOptional)
    else if (currentToken stop rest).kind = .question then
      .error (faultAt stop rest .nestedOptional)
    else .ok (.optional base, rest)
  | rest => .ok (base, rest)

/-- Ends a type whose wrapper has all its arguments. -/
def readWrapped (stop : Position) (wrapper : Wrapper) (arguments : List TypeExpr)
    (tokens : List Token) : Reading TypeExpr :=
  match wrapper.apply arguments with
  | .error fault => .error (faultAt stop tokens fault)
  | .ok base => readMark stop base tokens

mutual

/-- Reads a type.  The bound is at least the number of tokens left; where it is zero, the text has
come to its end. -/
def read (stop : Position) : Nat → List Token → Reading TypeExpr
  | 0, tokens => .error (faultAt stop tokens (.expectedName (currentToken stop tokens)))
  | bound + 1, tokens =>
    match tokens with
    | ⟨.identifier, name, _⟩ :: rest =>
      match Wrapper.ofName? name with
      | none => readMark stop (ofName name) rest
      | some wrapper =>
        match rest with
        | ⟨.leftAngle, _, _⟩ :: ⟨.rightAngle, _, _⟩ :: left => readWrapped stop wrapper [] left
        | ⟨.leftAngle, _, _⟩ :: inside =>
          match read stop bound inside with
          | .error e => .error e
          | .ok (first, left) =>
            match readArguments stop bound left with
            | .error e => .error e
            | .ok (others, left) => readWrapped stop wrapper (first :: others) left
        | _ => .error (faultAt stop rest (.expectedArguments wrapper))
    | _ => .error (faultAt stop tokens (.expectedName (currentToken stop tokens)))

/-- Reads the type arguments after the first one, and the closing bracket. -/
def readArguments (stop : Position) : Nat → List Token → Reading (List TypeExpr)
  | 0, tokens => .error (faultAt stop tokens (.expectedClosing (currentToken stop tokens)))
  | bound + 1, tokens =>
    match tokens with
    | ⟨.comma, _, _⟩ :: rest =>
      match read stop bound rest with
      | .error e => .error e
      | .ok (argument, left) =>
        match readArguments stop bound left with
        | .error e => .error e
        | .ok (arguments, left) => .ok (argument :: arguments, left)
    | ⟨.rightAngle, _, _⟩ :: rest => .ok ([], rest)
    | _ => .error (faultAt stop tokens (.expectedClosing (currentToken stop tokens)))

end

/-- The type expression a text denotes. -/
def parse (text : String) : Except TypeTextError TypeExpr :=
  match Token.scan text with
  | .error cause => .error (.unscannable text cause)
  | .ok stream =>
    if stream.tokens.isEmpty then .error (.empty text)
    else match read stream.stop stream.tokens.length stream.tokens with
      | .error (fault, column) => .error (.malformed text fault column)
      | .ok (expr, []) => .ok expr
      | .ok (_, found :: _) =>
        .error (.malformed text (.trailing found) found.position.column)

end TypeExpr

end RecordMirror
