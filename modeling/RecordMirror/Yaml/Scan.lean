import RecordMirror.Yaml.Token
/-!
Scanning YAML.  A scalar, collection or alias may turn out to be a key only when the colon after
it is reached; until then its place is remembered, and the tokens that mark the key are put there
afterwards.  Blocks are opened where the indentation grows and closed where it shrinks.
-/

namespace RecordMirror.Yaml

/-- A place where a key may have begun. -/
structure PossibleKey where
  /-- How many tokens stand before it. -/
  token : Nat
  /-- Whether it must be a key, because nothing else can stand in its column. -/
  required : Bool
  offset : Nat
  line : Nat
  column : Nat
deriving Repr

/-- The state of a scan. -/
structure Scanner where
  cursor : Cursor
  flowLevel : Nat := 0
  /-- The column of the innermost open block, and those of the blocks around it. -/
  indent : Int := -1
  indents : List Int := []
  /-- Whether a key may begin at the cursor. -/
  keyAllowed : Bool := true
  /-- The possible key of each flow level that has one. -/
  keys : List (Nat × PossibleKey) := []
  /-- The tokens so far, the last one first. -/
  tokens : List Token := []
  /-- How many tokens there are. -/
  count : Nat := 0
deriving Repr

namespace Scanner

/-- Whether the cursor is inside a flow collection. -/
def inFlow (s : Scanner) : Bool :=
  s.flowLevel != 0

/-- Adds a token. -/
def push (s : Scanner) (t : Token) : Scanner :=
  { s with tokens := t :: s.tokens, count := s.count + 1 }

/-- Puts a token behind the first so many ones. -/
def insert (s : Scanner) (index : Nat) (t : Token) : Scanner :=
  { s with tokens := s.tokens.insertIdx (s.count - index) t, count := s.count + 1 }

/-- The blocks left open, innermost first, after those deeper than a column are closed. -/
def openBlocks (column indent : Int) : List Int → Int × List Int
  | [] => (indent, [])
  | outer :: rest =>
    if indent > column then openBlocks column outer rest else (indent, outer :: rest)

/-- Closes the blocks deeper than a column.  Inside a flow collection indentation does not
count. -/
def unwind (s : Scanner) (column : Int) : Scanner :=
  if s.inFlow then s
  else
    let (indent, indents) := openBlocks column s.indent s.indents
    let closed := s.indents.length - indents.length
    { s with
      indent := indent
      indents := indents
      tokens := List.replicate closed Token.blockEnd ++ s.tokens
      count := s.count + closed }

/-- Whether a block begins at a column, and the state with that block open. -/
def openBlock (s : Scanner) (column : Int) : Bool × Scanner :=
  if s.indent < column then
    (true, { s with indent := column, indents := s.indent :: s.indents })
  else (false, s)

/-- Forgets the possible key of the current flow level.  One that must be a key is missing its
colon. -/
def dropKey (s : Scanner) : Except Fault Scanner :=
  match s.keys.lookup s.flowLevel with
  | none => .ok s
  | some key =>
    if key.required then malformed
    else .ok { s with keys := s.keys.filter (·.1 != s.flowLevel) }

/-- Whether a possible key has become too old: a key stands on one line and has at most 1024
characters. -/
def isStale (s : Scanner) (key : PossibleKey) : Bool :=
  key.line != s.cursor.line || s.cursor.offset - key.offset > 1024

/-- Forgets the possible keys that have become too old. -/
def dropStaleKeys (s : Scanner) : Except Fault Scanner :=
  if s.keys.any fun entry => s.isStale entry.2 && entry.2.required then malformed
  else .ok { s with keys := s.keys.filter fun entry => !s.isStale entry.2 }

/-- Remembers the cursor as the place of a possible key, if one may begin there. -/
def saveKey (s : Scanner) : Except Fault Scanner := do
  if s.keyAllowed then
    let required := !s.inFlow && s.indent == s.cursor.column
    let s ← s.dropKey
    let key : PossibleKey :=
      ⟨s.count, required, s.cursor.offset, s.cursor.line, s.cursor.column⟩
    return { s with keys := (s.flowLevel, key) :: s.keys }
  else return s

/-- Skips spaces, comments and line ends up to the next token.  A line end in a block allows a
key again. -/
def toNextToken : Nat → Scanner → Scanner
  | 0, s => s
  | fuel + 1, s =>
    let c := s.cursor.skipSpaces
    let c := if c.peek == some '#' then c.skipLine else c
    match c.readBreak with
    | none => { s with cursor := c }
    | some (_, c) =>
      toNextToken fuel { s with cursor := c, keyAllowed := s.keyAllowed || !s.inFlow }

/-- Skips a byte order mark at the very beginning. -/
def skipOrderMark (s : Scanner) : Scanner :=
  if s.cursor.offset = 0 && s.cursor.peek == some '\ufeff' then { s with cursor := s.cursor.step }
  else s

/-- Ends all blocks before a directive or a mark between documents. -/
def endBlocks (s : Scanner) : Except Fault Scanner := do
  let s ← (s.unwind (-1)).dropKey
  return { s with keyAllowed := false }

/-- Opens a flow collection. -/
def openFlow (s : Scanner) (t : Token) : Except Fault Scanner := do
  let s ← s.saveKey
  return { s with
    flowLevel := s.flowLevel + 1, keyAllowed := true, cursor := s.cursor.step }.push t

/-- Closes a flow collection. -/
def closeFlow (s : Scanner) (t : Token) : Except Fault Scanner := do
  if s.flowLevel = 0 then malformed
  else
    let s ← s.dropKey
    return { s with
      flowLevel := s.flowLevel - 1, keyAllowed := false, cursor := s.cursor.step }.push t

/-- Scans the comma of a flow collection. -/
def flowEntry (s : Scanner) : Except Fault Scanner := do
  let s ← s.dropKey
  return { s with keyAllowed := true, cursor := s.cursor.step }.push .flowEntry

/-- Opens a block at the cursor if the indentation grows there, marked by the given token.  A
block can begin only where a key is allowed. -/
def openBlockHere (s : Scanner) (mark : Token) : Except Fault Scanner :=
  if s.inFlow then .ok s
  else if !s.keyAllowed then malformed
  else
    let (opened, s) := s.openBlock s.cursor.column
    .ok (if opened then s.push mark else s)

/-- Scans the hyphen of a block sequence. -/
def blockEntry (s : Scanner) : Except Fault Scanner := do
  let s ← s.openBlockHere .blockSequenceStart
  let s ← s.dropKey
  return { s with keyAllowed := true, cursor := s.cursor.step }.push .blockEntry

/-- Scans the question mark before a key. -/
def explicitKey (s : Scanner) : Except Fault Scanner := do
  let s ← s.openBlockHere .blockMappingStart
  let s ← s.dropKey
  return { s with keyAllowed := !s.inFlow, cursor := s.cursor.step }.push .key

/-- Scans the colon before a value.  If a key may have begun before it, the key is marked now,
and so is the block mapping it begins. -/
def value (s : Scanner) : Except Fault Scanner := do
  match s.keys.lookup s.flowLevel with
  | some key =>
    let s := { s with
      keys := s.keys.filter (·.1 != s.flowLevel), keyAllowed := false }.insert key.token .key
    let (opened, s) := if s.inFlow then (false, s) else s.openBlock key.column
    let s := if opened then s.insert key.token .blockMappingStart else s
    return { s with cursor := s.cursor.step }.push .value
  | none =>
    let s ← s.openBlockHere .blockMappingStart
    let s ← s.dropKey
    return { s with keyAllowed := !s.inFlow, cursor := s.cursor.step }.push .value

/-- Adds a scanned token at which a key may begin. -/
def leaf (s : Scanner) (scan : Cursor → Except Fault (Token × Cursor)) : Except Fault Scanner := do
  let s ← s.saveKey
  let (t, c) ← scan s.cursor
  return { s with keyAllowed := false, cursor := c }.push t

/-- Scans a plain scalar. -/
def plain (s : Scanner) : Except Fault Scanner := do
  let s ← s.saveKey
  let (text, c, ended) :=
    Plain.scan s.inFlow (s.indent + 1) (s.cursor.left + 1) s.cursor [] false
  return { s with keyAllowed := ended, cursor := c }.push (.scalar true (String.ofList text))

/-- Scans a block scalar. -/
def block (s : Scanner) (folded : Bool) : Except Fault Scanner := do
  let s ← s.dropKey
  let (text, c) ← BlockScalar.scan folded s.indent s.cursor.step
  return { s with keyAllowed := true, cursor := c }.push (.scalar false (String.ofList text))

/-- Scans a quoted scalar. -/
def quotedScalar (quote : Char) (c : Cursor) : Except Fault (Token × Cursor) := do
  let (text, c) ← FlowScalar.scan quote (c.left + 1) c.step
  return (.scalar false (String.ofList text), c)

/-- Whether a plain scalar can begin with a character, given the one after it. -/
def beginsPlain (flow : Bool) (c : Char) (next : Option Char) : Bool :=
  if c == ' ' || c == '\t' || isBreak c then false
  else if isOneOf "-?:,[]\x7b\x7d#&*!|>'\"%@\x60" c then
    !endsWord next && (c == '-' || (!flow && (c == '?' || c == ':')))
  else true

/-- Scans the token that begins with the given character at the cursor. -/
def token (s : Scanner) (c : Char) : Except Fault Scanner := do
  let next := s.cursor.peekNext
  let lineStart := s.cursor.column = 0
  if c == '%' && lineStart then
    let s ← s.endBlocks
    let (t, cursor) ← Directive.scan s.cursor.step
    return { s with cursor := cursor }.push t
  else if c == '-' && lineStart && beginsWithMark s.cursor.rest then
    let s ← s.endBlocks
    return { s with cursor := s.cursor.skip 3 }.push .documentStart
  else if c == '.' && lineStart && beginsWithMark s.cursor.rest then
    let s ← s.endBlocks
    return { s with cursor := s.cursor.skip 3 }.push .documentEnd
  else if c == '[' then s.openFlow .flowSequenceStart
  else if c == '\x7b' then s.openFlow .flowMappingStart
  else if c == ']' then s.closeFlow .flowSequenceEnd
  else if c == '\x7d' then s.closeFlow .flowMappingEnd
  else if c == ',' then s.flowEntry
  else if c == '-' && endsWord next then s.blockEntry
  else if c == '?' && (s.inFlow || endsWord next) then s.explicitKey
  else if c == ':' && (s.inFlow || endsWord next) then s.value
  else if c == '*' then
    s.leaf fun cursor => (scanAnchorName cursor.step).map fun (name, c) => (.alias name, c)
  else if c == '&' then
    s.leaf fun cursor => (scanAnchorName cursor.step).map fun (name, c) => (.anchor name, c)
  else if c == '!' then s.leaf Tag.scan
  else if c == '|' && !s.inFlow then s.block false
  else if c == '>' && !s.inFlow then s.block true
  else if c == '\x27' then s.leaf (quotedScalar '\x27')
  else if c == '"' then s.leaf (quotedScalar '"')
  else if beginsPlain s.inFlow c next then s.plain
  else malformed

/-- Goes past the next token, or to the end of the text, where all blocks are closed.  The flag says
whether the end was reached. -/
def next (s : Scanner) : Except Fault (Scanner × Bool) := do
  let s := toNextToken (s.cursor.left + 1) s.skipOrderMark
  let s ← s.dropStaleKeys
  let s := s.unwind s.cursor.column
  match s.cursor.peek with
  | none => return (← (s.unwind (-1)).dropKey, true)
  | some c => return (← s.token c, false)

/-- The tokens that stay as they are whatever follows: those before the first place where a key may
have begun. -/
def certain (s : Scanner) : List Token :=
  let keys := s.keys.filter fun entry => !s.isStale entry.2
  let count := keys.foldl (fun n entry => min n entry.2.token) s.count
  s.tokens.reverse.take count

end Scanner

/-- What scanning a text gives: its tokens, or those before a fault. -/
structure Scanned where
  tokens : List Token
  fault : Option Fault := none
deriving Repr

namespace Scanner

/-- Scans up to the end of the text or to a fault. -/
def run : Nat → Scanner → Scanned
  | 0, s => ⟨s.certain, none⟩
  | fuel + 1, s =>
    match s.next with
    | .ok (s, true) => ⟨s.tokens.reverse, none⟩
    | .ok (s, false) => run fuel s
    | .error fault => ⟨s.certain, some fault⟩

end Scanner

/-- Scans a text.  Characters that no text may hold count before all else. -/
def scan (text : String) : Scanned :=
  let chars := text.toList
  if chars.all isAllowed then Scanner.run (chars.length + 1) { cursor := { rest := chars } }
  else ⟨[], some .malformed⟩

end RecordMirror.Yaml
