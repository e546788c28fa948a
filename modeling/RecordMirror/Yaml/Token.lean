import RecordMirror.Yaml.Cursor
import RecordMirror.Yaml.Fault
/-!
The tokens of YAML and the scanners of those that hold text: scalars in their five styles,
anchors, tags and directives.
-/

namespace RecordMirror.Yaml

/-- A token.  The marks of blocks are made by the scanner from the indentation. -/
inductive Token
  | version (major : Nat)
  | tagHandle (handle address : String)
  | directive
  | documentStart
  | documentEnd
  | blockSequenceStart
  | blockMappingStart
  | blockEnd
  | flowSequenceStart
  | flowSequenceEnd
  | flowMappingStart
  | flowMappingEnd
  | key
  | value
  | blockEntry
  | flowEntry
  | alias (name : String)
  | anchor (name : String)
  | tag (handle : Option String) (suffix : String)
  | scalar (plain : Bool) (text : String)
deriving DecidableEq, Repr

/-- A cursor, if a condition on it holds. -/
def require (condition : Bool) (c : Cursor) : Except Fault Cursor :=
  if condition then .ok c else malformed

/-- The rest of a line that holds nothing but spaces and a comment. -/
def scanIgnoredLine (c : Cursor) : Except Fault Cursor :=
  let c := c.skipSpaces
  let c := if c.peek == some '#' then c.skipLine else c
  match c.readBreak with
  | some (_, c) => .ok c
  | none => require c.peek.isNone c

namespace Plain

/-- How many characters belong to the first word of a plain scalar. -/
def wordLength (flow : Bool) : List Char → Nat
  | [] => 0
  | c :: rest =>
    if c == ' ' || c == '\t' || isBreak c then 0
    else if c == ':' &&
        (endsWord rest.head? || (flow && rest.head?.any (isOneOf ",[]\x7b\x7d"))) then 0
    else if flow && isOneOf ",?[]\x7b\x7d" c then 0
    else wordLength flow rest + 1

/-- The spaces and line breaks at a place, up to a mark between documents: the breaks after the
first one, and the place after all of them, or `none` at such a mark. -/
def scanBreaks : Nat → Cursor → List Char → Option (List Char) × Cursor
  | 0, c, breaks => (some breaks, c)
  | fuel + 1, c, breaks =>
    if c.peek == some ' ' then scanBreaks fuel c.step breaks
    else match c.readBreak with
      | some (b, c) =>
        if beginsWithMark c.rest then (none, c) else scanBreaks fuel c (breaks ++ [b])
      | none => (some breaks, c)

/-- What stands between two words of a plain scalar, as it counts in the text, the place after
it, and whether a line ended in it.  An empty text ends the scalar. -/
def scanSpaces (c : Cursor) : List Char × Cursor × Bool :=
  let (blanks, c) := c.takeWhile (· == ' ')
  match c.readBreak with
  | none => (blanks, c, false)
  | some (b, c) =>
    if beginsWithMark c.rest then ([], c, true)
    else match scanBreaks (c.left + 1) c [] with
      | (none, c) => ([], c, true)
      | (some breaks, c) =>
        ((if b != '\n' then [b] else if breaks.isEmpty then [' '] else []) ++ breaks, c, true)

/-- Scans the words of a plain scalar.  It goes on while the next word is indented deeply enough
and is no comment.  The flag says whether the last thing skipped was a line end. -/
def scan (flow : Bool) (indent : Int) : Nat → Cursor → List Char → Bool → List Char × Cursor × Bool
  | 0, c, _, ended => ([], c, ended)
  | fuel + 1, c, spaces, ended =>
    let length := if c.peek == some '#' then 0 else wordLength flow c.rest
    if length = 0 then ([], c, ended)
    else
      let word := c.rest.take length
      let (between, c, ended) := scanSpaces (c.skip length)
      if between.isEmpty || c.peek == some '#' || (!flow && (c.column : Int) < indent) then
        (spaces ++ word, c, ended)
      else
        let (text, c, ended) := scan flow indent fuel c between ended
        (spaces ++ word ++ text, c, ended)

end Plain

namespace FlowScalar

/-- The character that a one-letter escape of a double-quoted scalar stands for. -/
def escaped? : Char → Option Char
  | '0' => some '\x00'
  | 'a' => some '\x07'
  | 'b' => some '\x08'
  | 't' => some '\t'
  | '\t' => some '\t'
  | 'n' => some '\n'
  | 'v' => some '\x0b'
  | 'f' => some '\x0c'
  | 'r' => some '\r'
  | 'e' => some '\x1b'
  | ' ' => some ' '
  | '"' => some '"'
  | '\\' => some '\\'
  | '/' => some '/'
  | 'N' => some '\x85'
  | '_' => some '\xa0'
  | 'L' => some '\u2028'
  | 'P' => some '\u2029'
  | _ => none

/-- How many hexadecimal digits follow a numeric escape. -/
def escapeWidth? : Char → Option Nat
  | 'x' => some 2
  | 'u' => some 4
  | 'U' => some 8
  | _ => none

/-- The character of a code point. -/
def character (point : Nat) : Except Fault Char :=
  if point < 0x110000 then
    .ok (if 0xd800 ≤ point ∧ point < 0xe000 then '\ufffd' else Char.ofNat point)
  else .error (.literal (if point < Nat.pow 2 31 then .codePoint else .hugeCodePoint))

/-- The line breaks at a place, with the blanks before and after them.  A mark between documents
cannot stand in a scalar. -/
def scanBreaks : Nat → Cursor → List Char → Except Fault (List Char × Cursor)
  | 0, c, breaks => .ok (breaks, c)
  | fuel + 1, c, breaks =>
    if beginsWithMark c.rest then malformed
    else
      let c := (c.takeWhile fun ch => ch == ' ' || ch == '\t').2
      match c.readBreak with
      | some (b, c) => scanBreaks fuel c (breaks ++ [b])
      | none => .ok (breaks, c)

/-- The blanks and line breaks at a place, as they count in the text. -/
def scanSpaces (c : Cursor) : Except Fault (List Char × Cursor) := do
  let (blanks, c) := c.takeWhile fun ch => ch == ' ' || ch == '\t'
  if c.peek.isNone then malformed
  else match c.readBreak with
    | none => return (blanks, c)
    | some (b, c) =>
      let (breaks, c) ← scanBreaks (c.left + 1) c []
      return ((if b != '\n' then [b] else if breaks.isEmpty then [' '] else []) ++ breaks, c)

/-- The escape after a backslash, as it counts in the text. -/
def scanEscape (c : Cursor) : Except Fault (List Char × Cursor) := do
  match c.peek with
  | none => malformed
  | some ch =>
    match escaped? ch, escapeWidth? ch with
    | some plain, _ => return ([plain], c.step)
    | none, some width =>
      let digits := (c.rest.drop 1).take width
      if digits.length < width then malformed
      else match hexNumber? digits with
        | none => malformed
        | some point => return ([← character point], c.skip (width + 1))
    | none, none =>
      match c.readBreak with
      | some (_, c) => scanBreaks (c.left + 1) c []
      | none => malformed

/-- Scans the rest of a quoted scalar whose opening quote has been read. -/
def scan (quote : Char) : Nat → Cursor → Except Fault (List Char × Cursor)
  | 0, _ => malformed
  | fuel + 1, c => do
    match c.peek with
    | none => malformed
    | some ch =>
      if ch == quote then
        if quote == '\x27' && c.peekNext == some '\x27' then
          let (text, c) ← scan quote fuel (c.skip 2)
          return ('\x27' :: text, c)
        else return ([], c.step)
      else if ch == ' ' || ch == '\t' || isBreak ch then
        let (blanks, c) ← scanSpaces c
        let (text, c) ← scan quote fuel c
        return (blanks ++ text, c)
      else if quote == '"' && ch == '\\' then
        let (piece, c) ← scanEscape c.step
        let (text, c) ← scan quote fuel c
        return (piece ++ text, c)
      else
        let (text, c) ← scan quote fuel c.step
        return (ch :: text, c)

end FlowScalar

namespace BlockScalar

/-- What happens to the line breaks at the end of a block scalar. -/
inductive Chomping
  | strip
  | clip
  | keep
deriving DecidableEq, Repr

/-- The indentation digit at a place. -/
def scanIncrement (c : Cursor) : Except Fault (Option Nat × Cursor) :=
  match c.peek with
  | some d =>
    if d == '0' then malformed
    else if d.isDigit then .ok (some (d.toNat - 48), c.step)
    else .ok (none, c)
  | none => .ok (none, c)

/-- The chomping sign at a place. -/
def scanChomping (c : Cursor) : Option Chomping × Cursor :=
  match c.peek with
  | some '+' => (some .keep, c.step)
  | some '-' => (some .strip, c.step)
  | _ => (none, c)

/-- The header of a block scalar: a chomping sign and an indentation digit in either order, and
nothing else on the line. -/
def scanHeader (c : Cursor) : Except Fault ((Chomping × Option Nat) × Cursor) := do
  let (before, c) := scanChomping c
  let (increment, c) ← scanIncrement c
  let (after, c) := if before.isNone && increment.isSome then scanChomping c else (none, c)
  let c ← require (endsField c.peek) c
  let c ← scanIgnoredLine c
  return (((before <|> after).getD .clip, increment), c)

/-- The empty lines at a place and the deepest column their spaces reach. -/
def scanIndentation : Nat → Cursor → List Char → Nat → List Char × Nat × Cursor
  | 0, c, breaks, deepest => (breaks, deepest, c)
  | fuel + 1, c, breaks, deepest =>
    if c.peek == some ' ' then scanIndentation fuel c.step breaks (max deepest c.step.column)
    else match c.readBreak with
      | some (b, c) => scanIndentation fuel c (breaks ++ [b]) deepest
      | none => (breaks, deepest, c)

/-- The place after at most the spaces of an indentation. -/
def skipIndent (indent : Nat) (c : Cursor) : Cursor :=
  c.skip (min (indent - c.column) (c.rest.takeWhile (· == ' ')).length)

/-- The empty lines at a place, and the place after the indentation of the line after them. -/
def scanBreaks (indent : Nat) : Nat → Cursor → List Char → List Char × Cursor
  | 0, c, breaks => (breaks, c)
  | fuel + 1, c, breaks =>
    let c := skipIndent indent c
    match c.readBreak with
    | some (b, c) => scanBreaks indent fuel c (breaks ++ [b])
    | none => (breaks, c)

/-- Scans the lines of a block scalar from the text of its first one.  Gives the text without
the last line break, that break, and the empty lines after it. -/
def scanLines (folded : Bool) (indent : Nat) :
    Nat → Cursor → List Char × List Char × List Char × Cursor
  | 0, c => ([], [], [], c)
  | fuel + 1, c =>
    let flush := !(c.peek == some ' ' || c.peek == some '\t')
    let (line, c) := c.takeWhile (!isBreak ·)
    let (lineEnd, c) := match c.readBreak with
      | some (b, c) => ([b], c)
      | none => ([], c)
    let (breaks, c) := scanBreaks indent (c.left + 1) c []
    if c.column = indent ∧ c.peek.isSome then
      let joins := folded && lineEnd == ['\n'] && flush &&
        !(c.peek == some ' ' || c.peek == some '\t')
      let join := if joins then (if breaks.isEmpty then [' '] else []) else lineEnd
      let (text, lastEnd, trailing, c) := scanLines folded indent fuel c
      (line ++ join ++ breaks ++ text, lastEnd, trailing, c)
    else (line, lineEnd, breaks, c)

/-- Scans a block scalar whose sign has been read, in a block of the given indentation. -/
def scan (folded : Bool) (blockIndent : Int) (c : Cursor) : Except Fault (List Char × Cursor) := do
  let ((chomping, increment), c) ← scanHeader c
  let least := max (blockIndent + 1).toNat 1
  let (indent, breaks, c) := match increment with
    | none =>
      let (breaks, deepest, c) := scanIndentation (c.left + 1) c [] 0
      (max least deepest, breaks, c)
    | some n =>
      let indent := least + n - 1
      let (breaks, c) := scanBreaks indent (c.left + 1) c []
      (indent, breaks, c)
  let (text, lastEnd, trailing, c) :=
    if c.column = indent ∧ c.peek.isSome then
      let (text, lastEnd, trailing, c) := scanLines folded indent (c.left + 1) c
      (breaks ++ text, lastEnd, trailing, c)
    else ([], [], breaks, c)
  let tail := match chomping with
    | .strip => []
    | .clip => lastEnd
    | .keep => lastEnd ++ trailing
  return (text ++ tail, c)

end BlockScalar

/-- Scans the name of an anchor or alias whose sign has been read. -/
def scanAnchorName (c : Cursor) : Except Fault (String × Cursor) :=
  let (name, c) := c.takeWhile isNameChar
  if name.isEmpty then malformed
  else if endsWord c.peek || c.peek.any (isOneOf "?:,]\x7d%@\x60") then
    .ok (String.ofList name, c)
  else malformed

namespace Tag

/-- The bytes escaped at a place. -/
def scanEscapedBytes : Nat → Cursor → Except Fault (List UInt8 × Cursor)
  | 0, c => .ok ([], c)
  | fuel + 1, c =>
    match c.rest with
    | '%' :: a :: b :: _ =>
      match hexNumber? [a, b] with
      | none => malformed
      | some byte => do
        let (bytes, c) ← scanEscapedBytes fuel (c.skip 3)
        return (byte.toUInt8 :: bytes, c)
    | '%' :: _ => malformed
    | _ => .ok ([], c)

/-- Scans the pieces of an address. -/
def scanPieces : Nat → Cursor → Except Fault (List Char × Cursor)
  | 0, c => .ok ([], c)
  | fuel + 1, c => do
    if c.peek == some '%' then
      let (bytes, c) ← scanEscapedBytes (c.left + 1) c
      match String.fromUTF8? ⟨bytes.toArray⟩ with
      | none => malformed
      | some text =>
        let (rest, c) ← scanPieces fuel c
        return (text.toList ++ rest, c)
    else
      let (piece, c) := c.takeWhile isAddressChar
      if piece.isEmpty then return ([], c)
      else
        let (rest, c) ← scanPieces fuel c
        return (piece ++ rest, c)

/-- Scans the address part of a tag, which is not empty. -/
def scanAddress (c : Cursor) : Except Fault (String × Cursor) := do
  let (text, after) ← scanPieces (c.left + 1) c
  if after.offset = c.offset then malformed else return (String.ofList text, after)

/-- Scans a tag handle: a name between exclamation marks, or one such mark before a space. -/
def scanHandle (c : Cursor) : Except Fault (String × Cursor) :=
  if c.peek != some '!' then malformed
  else if c.peekNext == some ' ' then .ok ("!", c.step)
  else
    let (name, after) := c.step.takeWhile isNameChar
    if after.peek == some '!' then .ok ("!" ++ String.ofList name ++ "!", after.step)
    else malformed

/-- Scans a tag: an address between angle brackets, a lone exclamation mark, or an address with
an optional handle. -/
def scan (c : Cursor) : Except Fault (Token × Cursor) := do
  let (token, c) ←
    if c.peekNext == some '<' then do
      let (suffix, c) ← scanAddress (c.skip 2)
      let c ← require (c.peek == some '>') c
      pure (Token.tag none suffix, c.step)
    else if endsWord c.peekNext then pure (Token.tag none "!", c.step)
    else do
      let word := (c.rest.drop 1).takeWhile fun ch => !endsField (some ch)
      let (handle, c) ← if word.contains '!' then scanHandle c else pure ("!", c.step)
      let (suffix, c) ← scanAddress c
      pure (Token.tag (some handle) suffix, c)
  let c ← require (endsField c.peek) c
  return (token, c)

end Tag

namespace Directive

/-- Scans a number of a version. -/
def scanNumber (c : Cursor) : Except Fault (Nat × Cursor) :=
  let (digits, c) := c.takeWhile Char.isDigit
  if digits.isEmpty then malformed
  else if maxDigits < digits.length then .error (.literal (.longNumeral digits.length))
  else .ok (decimalNumber digits, c)

/-- Scans a version whose directive name has been read. -/
def scanVersion (c : Cursor) : Except Fault (Token × Cursor) := do
  let (major, c) ← scanNumber c.skipSpaces
  let c ← require (c.peek == some '.') c
  let (_, c) ← scanNumber c.step
  let c ← require (endsField c.peek) c
  return (.version major, c)

/-- Scans a tag handle and its address whose directive name has been read. -/
def scanTagHandle (c : Cursor) : Except Fault (Token × Cursor) := do
  let (handle, c) ← Tag.scanHandle c.skipSpaces
  let c ← require (c.peek == some ' ') c
  let (address, c) ← Tag.scanAddress c.skipSpaces
  let c ← require (endsField c.peek) c
  return (.tagHandle handle address, c)

/-- Scans a directive whose sign has been read. -/
def scan (c : Cursor) : Except Fault (Token × Cursor) := do
  let (name, c) := c.takeWhile isNameChar
  if name.isEmpty then malformed
  let c ← require (endsField c.peek) c
  let (token, c) ←
    if name == "YAML".toList then scanVersion c
    else if name == "TAG".toList then scanTagHandle c
    else pure (Token.directive, c.skipLine)
  let c ← scanIgnoredLine c
  return (token, c)

end Directive

end RecordMirror.Yaml
