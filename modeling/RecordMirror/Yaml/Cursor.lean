import RecordMirror.Text.Ranges
/-!
Places in a YAML text, and the character classes of YAML 1.1.
-/

namespace RecordMirror.Yaml

/-- The characters a YAML text may hold. -/
def isAllowed (c : Char) : Bool :=
  let n := c.toNat
  n == 9 || n == 10 || n == 13 || (32 ≤ n && n ≤ 126) || n == 0x85 ||
    (0xa0 ≤ n && n ≤ 0xfffd) || 0x10000 ≤ n

/-- The characters that end a line. -/
def isBreak (c : Char) : Bool :=
  c == '\n' || c == '\r' || c == '\x85' || c == '\u2028' || c == '\u2029'

/-- The characters of names of anchors, directives and tag handles. -/
def isNameChar (c : Char) : Bool :=
  c.isAlphanum || c == '-' || c == '_'

/-- The characters of the address part of a tag, other than the escape sign. -/
def isAddressChar (c : Char) : Bool :=
  c.isAlphanum || isOneOf "-;/?:@&=+$,_.!~*'()[]" c

/-- Whether a field of a header ends before the given character, if any: at a space or a line
end. -/
def endsField (next : Option Char) : Bool :=
  next.all fun c => c == ' ' || isBreak c

/-- Whether a word ends before the given character: at a space, a tab or a line end. -/
def endsWord (next : Option Char) : Bool :=
  next.all fun c => c == ' ' || c == '\t' || isBreak c

/-- Whether a text begins with one of the marks that separate documents.  They count at the
beginning of a line only, which is not checked here. -/
def beginsWithMark (text : List Char) : Bool :=
  match text with
  | '-' :: '-' :: '-' :: rest => endsWord rest.head?
  | '.' :: '.' :: '.' :: rest => endsWord rest.head?
  | _ => false

/-- A place in a text: what is left of it and how much that is, and the line, the column and the
offset, counted from zero. -/
structure Cursor where
  rest : List Char
  left : Nat := rest.length
  line : Nat := 0
  column : Nat := 0
  offset : Nat := 0
deriving Repr

namespace Cursor

/-- The character at a place. -/
def peek (c : Cursor) : Option Char :=
  c.rest.head?

/-- The character after the one at a place. -/
def peekNext (c : Cursor) : Option Char :=
  (c.rest.drop 1).head?

/-- The place after one character.  A carriage return before a line feed does not end a line of
its own, and a byte order mark takes no column. -/
def step (c : Cursor) : Cursor :=
  match c.rest with
  | [] => c
  | ch :: rest =>
    if isBreak ch && !(ch == '\r' && rest.head? == some '\n') then
      ⟨rest, c.left - 1, c.line + 1, 0, c.offset + 1⟩
    else
      let column := if ch == '\ufeff' then c.column else c.column + 1
      ⟨rest, c.left - 1, c.line, column, c.offset + 1⟩

/-- The place after some characters. -/
def skip (c : Cursor) : Nat → Cursor
  | 0 => c
  | n + 1 => c.step.skip n

/-- The longest stretch of characters of a class, and the place after it. -/
def takeWhile (p : Char → Bool) (c : Cursor) : List Char × Cursor :=
  let taken := c.rest.takeWhile p
  (taken, c.skip taken.length)

/-- The place after all spaces. -/
def skipSpaces (c : Cursor) : Cursor :=
  (c.takeWhile (· == ' ')).2

/-- The place at the end of the line. -/
def skipLine (c : Cursor) : Cursor :=
  (c.takeWhile (!isBreak ·)).2

/-- The line break at a place, if there is one, and the place after it.  All breaks but the two
Unicode separators become a line feed. -/
def readBreak (c : Cursor) : Option (Char × Cursor) :=
  match c.rest with
  | '\r' :: '\n' :: _ => some ('\n', c.step.step)
  | ch :: _ =>
    if ch == '\u2028' || ch == '\u2029' then some (ch, c.step)
    else if isBreak ch then some ('\n', c.step)
    else none
  | [] => none

end Cursor

end RecordMirror.Yaml
