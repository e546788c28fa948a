import RecordMirror.Text.Utf8
/-!
Every text is decoded from its bytes.  The bytes of a character are decoded to it wherever they
stand: the first byte says how many follow, and its bounds for the second one leave out no
character.
-/

namespace RecordMirror

theorem toNat_byte {n : Nat} (h : n < 256) : (UInt8.ofNat n).toNat = n := by
  rw [UInt8.toNat_ofNat']
  exact Nat.mod_eq_of_lt h

theorem toNat_continuationByte (bits : Nat) :
    (continuationByte bits).toNat = 0x80 + bits % 64 := by
  apply toNat_byte
  omega

/-- The last byte of a character completes it. -/
theorem next_last {c : OpenChar} {bits : Nat} (hmore : c.afterNext = 0)
    (hlow : c.low ≤ 0x80 + bits % 64) (hhigh : 0x80 + bits % 64 ≤ c.high) :
    c.next (continuationByte bits) = some (.inl (Char.ofNat (64 * c.bits + bits % 64))) := by
  simp [OpenChar.next, toNat_continuationByte, hlow, hhigh, hmore]

/-- A byte in the middle of a character adds its bits. -/
theorem next_middle {c : OpenChar} {bits more : Nat} (hmore : c.afterNext = more + 1)
    (hlow : c.low ≤ 0x80 + bits % 64) (hhigh : 0x80 + bits % 64 ≤ c.high) :
    ∃ m : OpenChar, c.next (continuationByte bits) = some (.inr m) ∧
      m.afterNext = more ∧ m.bits = 64 * c.bits + bits % 64 ∧ m.low = 0x80 ∧ m.high = 0xbf := by
  refine ⟨{ read := c.read ++ [continuationByte bits], afterNext := more,
            bits := 64 * c.bits + bits % 64 }, ?_, rfl, rfl, rfl, rfl⟩
  simp [OpenChar.next, toNat_continuationByte, hlow, hhigh, hmore]

section

variable {position : Nat} {b : UInt8} {rest : List UInt8} {c more : OpenChar} {char : Char}

theorem decode_begin_char (h : beginChar b = some (.inl char)) :
    decodeUtf8From position none (b :: rest) =
      (decodeUtf8From (position + 1) none rest).map (char :: ·) := by
  simp only [decodeUtf8From, h]

theorem decode_begin_open (h : beginChar b = some (.inr c)) :
    decodeUtf8From position none (b :: rest) = decodeUtf8From (position + 1) (some c) rest := by
  simp only [decodeUtf8From, h]

theorem decode_last (h : c.next b = some (.inl char)) :
    decodeUtf8From position (some c) (b :: rest) =
      (decodeUtf8From (position + 1) none rest).map (char :: ·) := by
  simp only [decodeUtf8From, h]

theorem decode_middle (h : c.next b = some (.inr more)) :
    decodeUtf8From position (some c) (b :: rest) =
      decodeUtf8From (position + 1) (some more) rest := by
  simp only [decodeUtf8From, h]

end

theorem beginChar_one {n : Nat} (h : n < 0x80) :
    beginChar (UInt8.ofNat n) = some (.inl (Char.ofNat n)) := by
  simp [beginChar, toNat_byte (show n < 256 by omega), h]

theorem beginChar_two {n : Nat} (hlow : 0x80 ≤ n) (hhigh : n < 0x800) :
    ∃ c : OpenChar, beginChar (UInt8.ofNat (0xc0 + n / 64)) = some (.inr c) ∧
      c.afterNext = 0 ∧ c.bits = n / 64 ∧ c.low = 0x80 ∧ c.high = 0xbf := by
  simp only [beginChar, toNat_byte (show 0xc0 + n / 64 < 256 by omega)]
  rw [if_neg (by omega), if_neg (by omega), if_pos (by omega)]
  exact ⟨_, rfl, rfl, by simp, rfl, rfl⟩

/-- The bounds of the second byte of three leave out no character. -/
theorem beginChar_three {n : Nat} (hlow : 0x800 ≤ n) (hhigh : n < 0x10000)
    (hvalid : n < 0xd800 ∨ 0xdfff < n) :
    ∃ c : OpenChar, beginChar (UInt8.ofNat (0xe0 + n / 4096)) = some (.inr c) ∧
      c.afterNext = 1 ∧ c.bits = n / 4096 ∧ c.low ≤ 0x80 + n / 64 % 64 ∧
        0x80 + n / 64 % 64 ≤ c.high := by
  simp only [beginChar, toNat_byte (show 0xe0 + n / 4096 < 256 by omega)]
  rw [if_neg (by omega), if_neg (by omega), if_neg (by omega)]
  by_cases hfirst : 0xe0 + n / 4096 = 0xe0
  · rw [if_pos hfirst]
    exact ⟨_, rfl, rfl, by simp; omega, by simp; omega, by simp; omega⟩
  rw [if_neg hfirst]
  by_cases hsurrogate : 0xe0 + n / 4096 = 0xed
  · rw [if_pos hsurrogate]
    exact ⟨_, rfl, rfl, by simp; omega, by simp, by simp; omega⟩
  · rw [if_neg hsurrogate, if_pos (by omega)]
    exact ⟨_, rfl, rfl, by simp, by simp, by simp; omega⟩

/-- The bounds of the second byte of four leave out no character. -/
theorem beginChar_four {n : Nat} (hlow : 0x10000 ≤ n) (hhigh : n < 0x110000) :
    ∃ c : OpenChar, beginChar (UInt8.ofNat (0xf0 + n / 262144)) = some (.inr c) ∧
      c.afterNext = 2 ∧ c.bits = n / 262144 ∧ c.low ≤ 0x80 + n / 4096 % 64 ∧
        0x80 + n / 4096 % 64 ≤ c.high := by
  simp only [beginChar, toNat_byte (show 0xf0 + n / 262144 < 256 by omega)]
  rw [if_neg (by omega), if_neg (by omega), if_neg (by omega), if_neg (by omega),
    if_neg (by omega), if_neg (by omega)]
  by_cases hfirst : 0xf0 + n / 262144 = 0xf0
  · rw [if_pos hfirst]
    exact ⟨_, rfl, rfl, by simp; omega, by simp; omega, by simp; omega⟩
  rw [if_neg hfirst]
  by_cases hinner : 0xf0 + n / 262144 < 0xf4
  · rw [if_pos hinner]
    exact ⟨_, rfl, rfl, by simp, by simp, by simp; omega⟩
  · rw [if_neg hinner, if_pos (by omega)]
    exact ⟨_, rfl, rfl, by simp; omega, by simp, by simp; omega⟩

/-- The bytes of a character are decoded to it. -/
theorem decode_utf8OfChar (c : Char) (position : Nat) (rest : List UInt8) :
    decodeUtf8From position none (utf8OfChar c ++ rest) =
      (decodeUtf8From (position + (utf8OfChar c).length) none rest).map (c :: ·) := by
  have hvalid : c.toNat < 0xd800 ∨ 0xdfff < c.toNat ∧ c.toNat < 0x110000 := c.valid
  have hback := Char.ofNat_toNat c
  generalize hn : c.toNat = n at hvalid hback
  unfold utf8OfChar
  rw [hn]
  by_cases hone : n < 0x80
  · rw [if_pos hone, List.singleton_append, decode_begin_char (beginChar_one hone), hback]
    rfl
  by_cases htwo : n < 0x800
  · obtain ⟨o, hbegin, hmore, hbits, hlow, hhigh⟩ := beginChar_two (by omega) htwo
    have hlast := @next_last o n hmore (by omega) (by omega)
    have hsum : 64 * o.bits + n % 64 = n := by omega
    rw [if_neg hone, if_pos htwo, List.cons_append, List.singleton_append,
      decode_begin_open hbegin, decode_last hlast, hsum, hback]
    rfl
  by_cases hthree : n < 0x10000
  · obtain ⟨o, hbegin, hmore, hbits, hlow, hhigh⟩ :=
      beginChar_three (by omega) hthree (by omega)
    obtain ⟨m, hmiddle, hmore, hsum, hlow, hhigh⟩ := next_middle hmore hlow hhigh
    have hlast := @next_last m n hmore (by omega) (by omega)
    have hall : 64 * m.bits + n % 64 = n := by omega
    rw [if_neg hone, if_neg htwo, if_pos hthree, List.cons_append, List.cons_append,
      List.singleton_append, decode_begin_open hbegin, decode_middle hmiddle, decode_last hlast,
      hall, hback]
    rfl
  · obtain ⟨o, hbegin, hmore, hbits, hlow, hhigh⟩ := @beginChar_four n (by omega) (by omega)
    obtain ⟨m, hmiddle, hmore, hsum, hlow, hhigh⟩ := next_middle hmore hlow hhigh
    obtain ⟨k, hthird, hmore, hthirdSum, hlow, hhigh⟩ :=
      @next_middle m (n / 64) 0 hmore (by omega) (by omega)
    have hlast := @next_last k n hmore (by omega) (by omega)
    have hall : 64 * k.bits + n % 64 = n := by omega
    rw [if_neg hone, if_neg htwo, if_neg hthree, List.cons_append, List.cons_append,
      List.cons_append, List.singleton_append, decode_begin_open hbegin, decode_middle hmiddle,
      decode_middle hthird, decode_last hlast, hall, hback]
    rfl

/-- The text of the bytes of a text is that text. -/
theorem textOfUtf8_utf8OfText (text : String) : textOfUtf8 (utf8OfText text) = .ok text := by
  have hdecode : ∀ (letters : List Char) (position : Nat),
      decodeUtf8From position none (letters.flatMap utf8OfChar) = .ok letters := by
    intro letters
    induction letters with
    | nil => intro position; rfl
    | cons c letters ih =>
        intro position
        rw [List.flatMap_cons, decode_utf8OfChar, ih]
        rfl
  rw [textOfUtf8, utf8OfText, hdecode, Except.map, String.ofList_toList]

end RecordMirror
