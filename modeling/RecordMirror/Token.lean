import RecordMirror.Text.Position
/-!
Tokens of the schema language, each with the place where it starts, and token streams.
-/

namespace RecordMirror

/-- The kinds of token. -/
inductive TokenKind
  | record
  | enum
  | leftBrace
  | rightBrace
  | leftAngle
  | rightAngle
  | leftParen
  | rightParen
  | comma
  | colon
  | atSign
  | question
  | string
  | identifier
  | eof
deriving DecidableEq, Repr, Inhabited

namespace TokenKind

/-- How messages name a kind of token: its spelling, where it has only one. -/
def label : TokenKind → String
  | record => "record"
  | enum => "enum"
  | leftBrace => "\x7b"
  | rightBrace => "\x7d"
  | leftAngle => "<"
  | rightAngle => ">"
  | leftParen => "("
  | rightParen => ")"
  | comma => ","
  | colon => ":"
  | atSign => "@"
  | question => "?"
  | string => "STRING"
  | identifier => "IDENTIFIER"
  | eof => "EOF"

/-- The kind of a token that is a single sign. -/
def ofSign? : Char → Option TokenKind
  | '\x7b' => some leftBrace
  | '\x7d' => some rightBrace
  | '<' => some leftAngle
  | '>' => some rightAngle
  | '(' => some leftParen
  | ')' => some rightParen
  | ',' => some comma
  | ':' => some colon
  | '@' => some atSign
  | '?' => some question
  | _ => none

/-- Exactly two words are keywords. -/
def ofWord (word : String) : TokenKind :=
  if word = "record" then record else if word = "enum" then enum else identifier

end TokenKind

/-- A token: its kind, its text (without the quotes of a string) and the place it starts at. -/
structure Token where
  kind : TokenKind
  text : String
  position : Position
deriving DecidableEq, Repr, Inhabited

/-- The tokens of a source and the place where the source ends. -/
structure TokenStream where
  tokens : List Token
  stop : Position
deriving DecidableEq, Repr, Inhabited

namespace TokenStream

/-- The token that stands for the end of the source. -/
def eofAt (stop : Position) : Token :=
  ⟨.eof, "", stop⟩

/-- All tokens, closed by the one for the end of the source. -/
def toList (s : TokenStream) : List Token :=
  s.tokens ++ [eofAt s.stop]

end TokenStream

/-- The token a reader looks at: the first one left, or the end of the source. -/
def currentToken (stop : Position) (tokens : List Token) : Token :=
  tokens.headD (TokenStream.eofAt stop)

end RecordMirror
