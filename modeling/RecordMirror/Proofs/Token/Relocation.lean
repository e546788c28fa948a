import RecordMirror.Proofs.Token.Written
/-!
Tokens that stand elsewhere.  A text gives the same tokens on whichever line it starts, and where a
line end and a second text follow, the tokens of the second come after those of the first, as many
lines further down as the first one takes.
-/

namespace RecordMirror

/-- A change of places that keeps lines together: the line of a new place depends on that of the old
place alone. -/
structure Relocation where
  place : Position → Position
  line : Int → Int
  line_place : ∀ p, ((place p).line : Int) = line p.line

namespace Relocation

/-- Puts everything at the start, which forgets all places. -/
def toStart : Relocation where
  place _ := .start
  line _ := 1
  line_place _ := rfl

/-- Moves everything down by some lines. -/
def down (lines : Nat) : Relocation where
  place p := ⟨p.line + lines, p.column⟩
  line n := n + lines
  line_place p := Int.natCast_add p.line lines

theorem down_after (lines : Nat) (p : Position) (text : List Char) :
    ((down lines).place p).after text = (down lines).place (p.after text) := by
  induction text generalizing p with
  | nil => rfl
  | cons c text ih =>
      have hadvance : ((down lines).place p).advance c = (down lines).place (p.advance c) := by
        by_cases hc : c = '\n'
        · simp [Position.advance, down, hc, Nat.add_right_comm]
        · simp [Position.advance, down, hc]
      rw [Position.after_cons, Position.after_cons, hadvance, ih]

end Relocation

/-- The token at its new place. -/
def Token.relocate (r : Relocation) (t : Token) : Token :=
  { t with position := r.place t.position }

@[simp] theorem Token.relocate_kind (r : Relocation) (t : Token) :
    (t.relocate r).kind = t.kind := rfl

@[simp] theorem Token.relocate_text (r : Relocation) (t : Token) :
    (t.relocate r).text = t.text := rfl

/-- The tokens of a source at their new places. -/
def TokenStream.relocate (r : Relocation) (s : TokenStream) : TokenStream :=
  ⟨s.tokens.map (Token.relocate r), r.place s.stop⟩

/-- Streams of the same lexemes are the same once their places are forgotten. -/
theorem TokenStream.relocate_toStart_eq {s s' : TokenStream} (h : s.lexemes = s'.lexemes) :
    s.relocate .toStart = s'.relocate .toStart := by
  have hforget : ∀ s : TokenStream, s.relocate .toStart =
      ⟨s.lexemes.map fun l => ⟨l.1, l.2, .start⟩, .start⟩ := by
    intro s
    simp [relocate, lexemes, Token.lexeme, Token.relocate, Relocation.toStart]
  rw [hforget, hforget, h]

/-! ### Texts that start further down -/

namespace Piece

theorem streamFrom_down (lines : Nat) (p : Position) (pieces : List Piece) :
    streamFrom ((Relocation.down lines).place p) pieces =
      (streamFrom p pieces).relocate (.down lines) := by
  induction pieces generalizing p with
  | nil => rfl
  | cons piece pieces ih =>
      simp only [streamFrom, Relocation.down_after, ih]
      cases piece.lexeme? <;> rfl

theorem streamFrom_stop {text : List Char} {pieces : List Piece} (h : Cuts text pieces)
    (p : Position) : (streamFrom p pieces).stop = p.after text := by
  induction h generalizing p with
  | nil => rfl
  | @cons c rest after piece pieces hread _ ih =>
      have hstop : (streamFrom p (piece :: pieces)).stop =
          (streamFrom (p.after piece.raw) pieces).stop := by
        simp only [streamFrom]
        cases piece.lexeme? <;> rfl
      rw [hstop, ih, ← Position.after_append, read_append hread]

end Piece

theorem Token.scanFrom_down {p : Position} {text : List Char} {stream : TokenStream}
    (h : scanFrom p text = .ok stream) (lines : Nat) :
    scanFrom ((Relocation.down lines).place p) text = .ok (stream.relocate (.down lines)) := by
  obtain ⟨pieces, hcuts, rfl⟩ := scanFrom_eq_ok_iff.1 h
  exact scanFrom_eq_ok_iff.2 ⟨pieces, hcuts, (Piece.streamFrom_down lines p pieces).symm⟩

theorem Token.scan_stop {source : String} {stream : TokenStream} (h : scan source = .ok stream) :
    stream.stop = .placeAfter source.toList := by
  obtain ⟨pieces, hcuts, rfl⟩ := scanFrom_eq_ok_iff.1 h
  rw [Piece.streamFrom_stop hcuts, Position.start_after]

/-! ### Texts with a line end behind them -/

section

variable {p : Char → Bool} {text : List Char} (more : List Char)

theorem takeWhile_line (hline : p '\n' = false) :
    (text ++ '\n' :: more).takeWhile p = text.takeWhile p := by
  obtain ⟨body, after, rfl, hbody, hafter⟩ := exists_stretch p text
  have hend : ∀ c ∈ (after ++ '\n' :: more).head?, p c = false := by
    cases after with
    | nil => simpa using hline
    | cons c rest => simpa using hafter
  rw [List.append_assoc, takeWhile_stretch hbody hend, takeWhile_stretch hbody hafter]

theorem dropWhile_line (hline : p '\n' = false) :
    (text ++ '\n' :: more).dropWhile p = text.dropWhile p ++ '\n' :: more := by
  obtain ⟨body, after, rfl, hbody, hafter⟩ := exists_stretch p text
  have hend : ∀ c ∈ (after ++ '\n' :: more).head?, p c = false := by
    cases after with
    | nil => simpa using hline
    | cons c rest => simpa using hafter
  rw [List.append_assoc, dropWhile_stretch hbody hend, dropWhile_stretch hbody hafter]

end

namespace Piece

variable {rest after : List Char} {piece : Piece}

theorem splitAfterCommentEnd_append_right {text body : List Char}
    (h : splitAfterCommentEnd text = some (body, after)) (more : List Char) :
    splitAfterCommentEnd (text ++ more) = some (body, after ++ more) := by
  have hclosed : commentEnd <:+: text := by
    by_contra hopen
    rw [splitAfterCommentEnd_eq_none_iff.2 hopen] at h
    cases h
  obtain ⟨body', rest, rfl, hfirst⟩ := exists_first_commentEnd hclosed
  rw [splitAfterCommentEnd_of_first hfirst] at h
  cases h
  rw [List.append_assoc, splitAfterCommentEnd_of_first hfirst]

theorem readComment_line_end (h : readComment rest = .ok (piece, after)) (more : List Char) :
    readComment (rest ++ '\n' :: more) = .ok (piece, after ++ '\n' :: more) := by
  unfold readComment at h
  split at h
  · cases h
    rw [List.cons_append, readComment, ← List.cons_append, takeWhile_line more rfl,
      dropWhile_line more rfl]
  · split at h
    · rename_i hsplit
      cases h
      simp only [List.cons_append, readComment, splitAfterCommentEnd_append_right hsplit]
    · cases h
  · cases h

theorem readString_line_end {quote : Char} (h : readString quote rest = .ok (piece, after))
    (more : List Char) :
    readString quote (rest ++ '\n' :: more) = .ok (piece, after ++ '\n' :: more) := by
  have hline : (fun c => c != quote && c != '\n') '\n' = false := by simp
  unfold readString at h ⊢
  simp only at h ⊢
  rw [takeWhile_line more hline, dropWhile_line more hline]
  cases hrest : rest.dropWhile fun c => c != quote && c != '\n' with
  | nil =>
      rw [hrest] at h
      cases h
  | cons c tail =>
      simp only [hrest] at h
      by_cases hc : c = quote
      · rw [if_pos hc] at h
        cases h
        exact if_pos hc
      · rw [if_neg hc] at h
        cases h

/-- A line end behind a piece is not a part of it, whatever follows. -/
theorem read_line_end {c : Char} (h : read c rest = .ok (piece, after)) (more : List Char) :
    read c (rest ++ '\n' :: more) = .ok (piece, after ++ '\n' :: more) := by
  have hword : isWordPart '\n' = false := by decide
  unfold read at h ⊢
  split
  · rename_i hlayout
    rw [if_pos hlayout] at h
    cases h
    rfl
  rename_i hlayout
  rw [if_neg hlayout] at h
  split
  · rename_i hslash
    rw [if_pos hslash] at h
    exact readComment_line_end h more
  rename_i hslash
  rw [if_neg hslash] at h
  split
  · rename_i kind hsign
    simp only [hsign] at h
    cases h
    rfl
  rename_i hsign
  simp only [hsign] at h
  split
  · rename_i hquote
    rw [if_pos hquote] at h
    exact readString_line_end h more
  rename_i hquote
  rw [if_neg hquote] at h
  split
  · rename_i hstart
    rw [if_pos hstart] at h
    cases h
    rw [takeWhile_line more hword, dropWhile_line more hword]
  · rename_i hstart
    rw [if_neg hstart] at h
    cases h

end Piece

/-- What scans goes on to scan after a line end, from the place where it ended. -/
theorem Token.scanFrom_line_end {p : Position} {text : List Char} {stream : TokenStream}
    (h : scanFrom p text = .ok stream) (more : List Char) :
    scanFrom p (text ++ '\n' :: more) =
      (scanFrom (stream.stop.advance '\n') more).map fun behind =>
        ⟨stream.tokens ++ behind.tokens, behind.stop⟩ := by
  obtain ⟨pieces, hcuts, rfl⟩ := scanFrom_eq_ok_iff.1 h
  clear h
  induction hcuts generalizing p with
  | nil =>
      have hline : Piece.read '\n' more = .ok (.layout ['\n'], more) := rfl
      rw [List.nil_append, scanFrom_cons_ok hline]
      rfl
  | @cons c rest after piece pieces hread hcuts ih =>
      rw [List.cons_append, scanFrom_cons_ok (Piece.read_line_end hread more), ih]
      simp only [Piece.streamFrom]
      cases piece.lexeme? with
      | none =>
          cases scanFrom (Position.advance _ '\n') more <;> rfl
      | some lexeme =>
          cases scanFrom (Position.advance _ '\n') more <;> rfl

/-- Two sources with a line end between them have the tokens of both.  Those of the second are moved
down by the lines of the first. -/
theorem Token.scan_joined {first second : String} {one two : TokenStream}
    (hfirst : scan first = .ok one) (hsecond : scan second = .ok two) :
    let moved := two.relocate (.down (first.toList.count '\n' + 1))
    scan (first ++ "\n" ++ second) = .ok ⟨one.tokens ++ moved.tokens, moved.stop⟩ := by
  intro moved
  have htext : (first ++ "\n" ++ second).toList = first.toList ++ '\n' :: second.toList := by simp
  have hplace : one.stop.advance '\n' =
      (Relocation.down (first.toList.count '\n' + 1)).place .start := by
    rw [scan_stop hfirst]
    simp [Position.advance, Position.placeAfter, Relocation.down, Position.start, Nat.add_assoc]
  rw [scan, htext, scanFrom_line_end hfirst, hplace, scanFrom_down hsecond]
  rfl

end RecordMirror
