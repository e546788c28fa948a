/-!
Character classes given as closed ranges of code points, or as the characters of a text.
-/

namespace RecordMirror

/-- Whether a code point lies in one of the closed ranges of a table. -/
def inRanges (table : List (Nat × Nat)) (point : Nat) : Bool :=
  table.any fun range => range.1 ≤ point && point ≤ range.2

/-- Whether a character is one of those of a text. -/
def isOneOf (signs : String) (c : Char) : Bool :=
  signs.toList.contains c

end RecordMirror
