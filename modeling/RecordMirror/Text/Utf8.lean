import RecordMirror.Text.Digits
/-!
UTF-8: the bytes of a text, and the text of bytes.  Decoding stops at the first bytes that no
character has and says which ones they are.
-/

namespace RecordMirror

/-- A byte of a character after its first one: six bits of the code point. -/
def continuationByte (bits : Nat) : UInt8 :=
  UInt8.ofNat (0x80 + bits % 64)

/-- The bytes of a character. -/
def utf8OfChar (c : Char) : List UInt8 :=
  let n := c.toNat
  if n < 0x80 then [UInt8.ofNat n]
  else if n < 0x800 then [UInt8.ofNat (0xc0 + n / 64), continuationByte n]
  else if n < 0x10000 then
    [UInt8.ofNat (0xe0 + n / 4096), continuationByte (n / 64), continuationByte n]
  else
    [UInt8.ofNat (0xf0 + n / 262144), continuationByte (n / 4096), continuationByte (n / 64),
      continuationByte n]

/-- The bytes of a text. -/
def utf8OfText (text : String) : List UInt8 :=
  text.toList.flatMap utf8OfChar

/-- Why bytes are no text. -/
inductive Utf8Fault
  | startByte
  | continuationByte
  | endOfBytes
deriving DecidableEq, Repr

/-- Bytes that cannot be decoded: the position of the first of them, and what is wrong. -/
structure Utf8Error where
  position : Nat
  bytes : List UInt8
  fault : Utf8Fault
deriving DecidableEq, Repr

/-- The wording of a fault. -/
def Utf8Fault.message : Utf8Fault → String
  | startByte => "invalid start byte"
  | continuationByte => "invalid continuation byte"
  | endOfBytes => "unexpected end of data"

/-- The wording of the error: a single byte is shown, of several the positions are named. -/
def Utf8Error.message (e : Utf8Error) : String :=
  "'utf-8' codec can't decode " ++
    (match e.bytes with
    | [b] => s!"byte 0x{String.ofList (hexDigits 2 b.toNat)} in position {e.position}"
    | bytes => s!"bytes in position {e.position}-{e.position + bytes.length - 1}") ++
    ": " ++ e.fault.message

/-- A character of which some bytes have been read. -/
structure OpenChar where
  /-- The bytes read so far. -/
  read : List UInt8
  /-- The number of bytes still to come after the next one. -/
  afterNext : Nat
  /-- The least and the greatest next byte. -/
  low : Nat := 0x80
  high : Nat := 0xbf
  /-- The bits read so far. -/
  bits : Nat
deriving DecidableEq, Repr

/-- What a first byte begins: a whole character, one of several bytes, or nothing.  The bounds of
the second byte leave out code points that have shorter encodings, that are surrogates, or that
are too great. -/
def beginChar (b : UInt8) : Option (Char ⊕ OpenChar) :=
  let n := b.toNat
  if n < 0x80 then some (.inl (Char.ofNat n))
  else if n < 0xc2 then none
  else if n < 0xe0 then some (.inr { read := [b], afterNext := 0, bits := n - 0xc0 })
  else if n = 0xe0 then some (.inr { read := [b], afterNext := 1, low := 0xa0, bits := 0 })
  else if n = 0xed then some (.inr { read := [b], afterNext := 1, high := 0x9f, bits := 0xd })
  else if n < 0xf0 then some (.inr { read := [b], afterNext := 1, bits := n - 0xe0 })
  else if n = 0xf0 then some (.inr { read := [b], afterNext := 2, low := 0x90, bits := 0 })
  else if n < 0xf4 then some (.inr { read := [b], afterNext := 2, bits := n - 0xf0 })
  else if n = 0xf4 then some (.inr { read := [b], afterNext := 2, high := 0x8f, bits := 4 })
  else none

/-- What the next byte of a character gives: the whole character, or more of it, or nothing. -/
def OpenChar.next (c : OpenChar) (b : UInt8) : Option (Char ⊕ OpenChar) :=
  let n := b.toNat
  if c.low ≤ n ∧ n ≤ c.high then
    let bits := 64 * c.bits + (n - 0x80)
    match c.afterNext with
    | 0 => some (.inl (Char.ofNat bits))
    | more + 1 => some (.inr { read := c.read ++ [b], afterNext := more, bits := bits })
  else none

/-- Decodes bytes from a position on, in the middle of a character or between two. -/
def decodeUtf8From (position : Nat) : Option OpenChar → List UInt8 → Except Utf8Error (List Char)
  | none, [] => .ok []
  | some c, [] => .error ⟨position - c.read.length, c.read, .endOfBytes⟩
  | none, b :: rest =>
    match beginChar b with
    | none => .error ⟨position, [b], .startByte⟩
    | some (.inl char) => (decodeUtf8From (position + 1) none rest).map (char :: ·)
    | some (.inr c) => decodeUtf8From (position + 1) (some c) rest
  | some c, b :: rest =>
    match c.next b with
    | none => .error ⟨position - c.read.length, c.read, .continuationByte⟩
    | some (.inl char) => (decodeUtf8From (position + 1) none rest).map (char :: ·)
    | some (.inr more) => decodeUtf8From (position + 1) (some more) rest

/-- The text of bytes. -/
def textOfUtf8 (bytes : List UInt8) : Except Utf8Error String :=
  (decodeUtf8From 0 none bytes).map String.ofList

end RecordMirror
