import RecordMirror.Json
/-!
Writing JSON: indented by two spaces, one item or member a line, and in ASCII alone.
-/

namespace RecordMirror

/-- An escape of one sixteen-bit unit. -/
def unitEscape (unit : Nat) : List Char :=
  '\\' :: 'u' :: hexDigits 4 unit

/-- One character of a written string.  What is not printable ASCII is escaped; characters beyond
the sixteen-bit range take two units. -/
def writtenChar (c : Char) : List Char :=
  if c = '"' ∨ c = '\\' then ['\\', c]
  else if c = '\n' then ['\\', 'n']
  else if c = '\r' then ['\\', 'r']
  else if c = '\t' then ['\\', 't']
  else if c.toNat = 8 then ['\\', 'b']
  else if c.toNat = 12 then ['\\', 'f']
  else if 32 ≤ c.toNat ∧ c.toNat < 127 then [c]
  else if c.toNat < 0x10000 then unitEscape c.toNat
  else
    unitEscape (0xd800 + (c.toNat - 0x10000) / 0x400) ++
      unitEscape (0xdc00 + (c.toNat - 0x10000) % 0x400)

/-- A written string, with its quotes. -/
def writtenString (s : String) : List Char :=
  '"' :: (s.toList.flatMap writtenChar ++ ['"'])

/-- A line break and the indentation of the line after it. -/
def newLine (depth : Nat) : List Char :=
  '\n' :: List.replicate (2 * depth) ' '

namespace Json

/-- The text of a double; the values that are no numbers have names. -/
def writtenFloat (x : Double) : String :=
  match x with
  | .nan => "NaN"
  | .infinite negative => if negative then "-Infinity" else "Infinity"
  | x => x.text

mutual

/-- Writes a value that stands `depth` levels deep. -/
def write (depth : Nat) : Json → List Char
  | null => "null".toList
  | bool b => if b then "true".toList else "false".toList
  | integer n => (toString n).toList
  | float x => (writtenFloat x).toList
  | string s => writtenString s
  | array [] => ['[', ']']
  | array (first :: rest) =>
    '[' :: newLine (depth + 1) ++ write (depth + 1) first ++ writeItems depth rest
  | object [] => ['\x7b', '\x7d']
  | object ((name, value) :: rest) =>
    '\x7b' :: newLine (depth + 1) ++ writtenString name ++ ':' :: ' ' ::
      write (depth + 1) value ++ writeMembers depth rest

/-- Writes the items after the first one, and the closing bracket. -/
def writeItems (depth : Nat) : List Json → List Char
  | [] => newLine depth ++ [']']
  | item :: rest => ',' :: newLine (depth + 1) ++ write (depth + 1) item ++ writeItems depth rest

/-- Writes the members after the first one, and the closing brace. -/
def writeMembers (depth : Nat) : List (String × Json) → List Char
  | [] => newLine depth ++ ['\x7d']
  | (name, value) :: rest =>
    ',' :: newLine (depth + 1) ++ writtenString name ++ ':' :: ' ' :: write (depth + 1) value ++
      writeMembers depth rest

end

/-- The text of a value. -/
def render (value : Json) : String :=
  String.ofList (write 0 value)

end Json

end RecordMirror
