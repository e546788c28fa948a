import Mathlib.Algebra.Group.Nat.Defs
import RecordMirror.Json.Reader
import RecordMirror.Json.Writer
/-!
Written strings are read back.  A character is written as itself, as a short escape, or as the
escapes of its sixteen-bit units; reading gives the units, and joining them the character.
-/

namespace RecordMirror

/-! ### Hexadecimal numerals -/

theorem hexNumber?_concat (digits : List Char) (c : Char) :
    hexNumber? (digits ++ [c]) =
      (hexNumber? digits).bind fun value => (hexValue? c).map (16 * value + ·) := by
  simp only [hexNumber?, List.foldlM_append, List.foldlM_cons, List.foldlM_nil]
  cases List.foldlM (fun value c => (hexValue? c).map (16 * value + ·)) 0 digits with
  | none => rfl
  | some value => cases hexValue? c <;> rfl

theorem hexNumber?_hexDigits {width n : Nat} (h : n < 16 ^ width) :
    hexNumber? (hexDigits width n) = some n := by
  induction width generalizing n with
  | zero =>
      rw [Nat.lt_one_iff.1 h]
      rfl
  | succ width ih =>
      have hhigh : n / 16 < 16 ^ width := by
        rw [Nat.pow_succ] at h
        omega
      rw [hexDigits, hexNumber?_concat, ih hhigh, Option.bind_some,
        hexValue?_hexDigit _ (Nat.mod_lt n (by decide)), Option.map_some, Nat.div_add_mod]

namespace Json

/-! ### Units -/

/-- The sixteen-bit units of a character. -/
def unitsOf (c : Char) : List Nat :=
  if c.toNat < 0x10000 then [c.toNat]
  else [0xd800 + (c.toNat - 0x10000) / 0x400, 0xdc00 + (c.toNat - 0x10000) % 0x400]

theorem toNat_range (c : Char) : c.toNat < 0xd800 ∨ 0xdfff < c.toNat ∧ c.toNat < 0x110000 :=
  c.valid

/-- The units of a character are joined to it, whatever units follow. -/
theorem joinUnits_unitsOf (c : Char) (units : List Nat) :
    joinUnits (unitsOf c ++ units) = c :: joinUnits units := by
  have hrange := toNat_range c
  by_cases hshort : c.toNat < 0x10000
  · have hplain : ¬ (0xd800 ≤ c.toNat ∧ c.toNat < 0xe000) := by omega
    have hunit : joinUnits.ofUnit c.toNat = c := by
      rw [joinUnits.ofUnit, if_neg hplain, Char.ofNat_toNat]
    rw [unitsOf, if_pos hshort, List.singleton_append]
    cases units with
    | nil => exact congrArg (fun d => [d]) hunit
    | cons low rest =>
        have hpair : ¬ (0xd800 ≤ c.toNat ∧ c.toNat < 0xdc00 ∧ 0xdc00 ≤ low ∧ low < 0xe000) := by
          omega
        rw [joinUnits, if_neg hpair, hunit]
  · have hpair : 0xd800 ≤ 0xd800 + (c.toNat - 0x10000) / 0x400 ∧
        0xd800 + (c.toNat - 0x10000) / 0x400 < 0xdc00 ∧
        0xdc00 ≤ 0xdc00 + (c.toNat - 0x10000) % 0x400 ∧
        0xdc00 + (c.toNat - 0x10000) % 0x400 < 0xe000 := by omega
    have hback : 0x10000 + (0xd800 + (c.toNat - 0x10000) / 0x400 - 0xd800) * 0x400 +
        (0xdc00 + (c.toNat - 0x10000) % 0x400 - 0xdc00) = c.toNat := by omega
    rw [unitsOf, if_neg hshort, List.cons_append, List.singleton_append, joinUnits,
      if_pos hpair, hback, Char.ofNat_toNat]

/-! ### How one character is written -/

/-- Printable ASCII. -/
def isPrintableAscii (c : Char) : Prop :=
  32 ≤ c.toNat ∧ c.toNat < 127

/-- How a character is written: by a short escape, as it is, or by the escapes of its units. -/
inductive Writing (c : Char) : List Char → Prop
  | short {letter : Char} (hshort : c.toNat < 0x10000) (hletter : letter ≠ 'u')
      (hprintable : isPrintableAscii letter) (hescape : escaped? letter = some c) :
      Writing c ['\\', letter]
  | plain (hquote : c ≠ '"') (hslash : c ≠ '\\') (hprintable : isPrintableAscii c) : Writing c [c]
  | unit (hshort : c.toNat < 0x10000) : Writing c (unitEscape c.toNat)
  | pair (hlong : 0x10000 ≤ c.toNat) :
      Writing c (unitEscape (0xd800 + (c.toNat - 0x10000) / 0x400) ++
        unitEscape (0xdc00 + (c.toNat - 0x10000) % 0x400))

theorem writing_writtenChar (c : Char) : Writing c (writtenChar c) := by
  have hshort : ∀ {d letter : Char}, d.toNat < 0x10000 → letter ≠ 'u' →
      isPrintableAscii letter → escaped? letter = some d → c = d → Writing c ['\\', letter] := by
    rintro d letter hd hletter hprintable hescape rfl
    exact .short hd hletter hprintable hescape
  have hcode : ∀ d : Char, c.toNat = d.toNat → c = d := fun _ => Char.toNat_inj.1
  unfold writtenChar
  by_cases hquote : c = '"' ∨ c = '\\'
  · rw [if_pos hquote]
    rcases hquote with rfl | rfl <;>
      exact .short (by decide) (by decide) ⟨by decide, by decide⟩ rfl
  rw [if_neg hquote]
  by_cases hline : c = '\n'
  · rw [if_pos hline]
    exact hshort (by decide) (by decide) ⟨by decide, by decide⟩ rfl hline
  rw [if_neg hline]
  by_cases hreturn : c = '\r'
  · rw [if_pos hreturn]
    exact hshort (by decide) (by decide) ⟨by decide, by decide⟩ rfl hreturn
  rw [if_neg hreturn]
  by_cases htab : c = '\t'
  · rw [if_pos htab]
    exact hshort (by decide) (by decide) ⟨by decide, by decide⟩ rfl htab
  rw [if_neg htab]
  by_cases hback : c.toNat = 8
  · rw [if_pos hback]
    exact hshort (by decide) (by decide) ⟨by decide, by decide⟩ rfl (hcode '\x08' hback)
  rw [if_neg hback]
  by_cases hfeed : c.toNat = 12
  · rw [if_pos hfeed]
    exact hshort (by decide) (by decide) ⟨by decide, by decide⟩ rfl (hcode '\x0c' hfeed)
  rw [if_neg hfeed]
  by_cases hprintable : 32 ≤ c.toNat ∧ c.toNat < 127
  · rw [if_pos hprintable]
    rw [not_or] at hquote
    exact .plain hquote.1 hquote.2 hprintable
  rw [if_neg hprintable]
  by_cases hunit : c.toNat < 0x10000
  · rw [if_pos hunit]
    exact .unit hunit
  · rw [if_neg hunit]
    exact .pair (Nat.le_of_not_lt hunit)

/-! ### Reading one written character -/

/-- Some units before what is read from the rest of a text. -/
def withUnits (units : List Nat) (outcome : Except Failure (List Nat × List Char)) :
    Except Failure (List Nat × List Char) :=
  outcome.map fun (more, left) => (units ++ more, left)

theorem readUnits_unitEscape {unit : Nat} (hunit : unit < 0x10000) {tail : List Char}
    (htail : tail ≠ []) :
    readUnits (unitEscape unit ++ tail) = withUnits [unit] (readUnits tail) := by
  obtain ⟨next, rest, rfl⟩ := List.exists_cons_of_ne_nil htail
  have hdigits : ∃ a b c d, hexDigits 4 unit = [a, b, c, d] := ⟨_, _, _, _, rfl⟩
  obtain ⟨a, b, c, d, habcd⟩ := hdigits
  have hnumber : hexNumber? [a, b, c, d] = some unit := by
    rw [← habcd]
    exact hexNumber?_hexDigits hunit
  simp only [unitEscape, habcd, List.cons_append, List.nil_append, readUnits, hnumber]
  rfl

theorem readUnits_escape {letter c : Char} (hletter : letter ≠ 'u')
    (hescape : escaped? letter = some c) (rest : List Char) :
    readUnits ('\\' :: letter :: rest) = withUnits [c.toNat] (readUnits rest) := by
  rw [readUnits]
  · rw [hescape]
    rfl
  · exact fun _ _ _ _ _ _ h => absurd h hletter
  · exact hletter

theorem readUnits_plain {c : Char} (hquote : c ≠ '"') (hslash : c ≠ '\\') (hc : 32 ≤ c.toNat)
    (rest : List Char) : readUnits (c :: rest) = withUnits [c.toNat] (readUnits rest) := by
  rw [readUnits]
  · rw [if_neg (by omega)]
    rfl
  all_goals simp [hquote, hslash]

theorem withUnits_withUnits (units more : List Nat)
    (outcome : Except Failure (List Nat × List Char)) :
    withUnits units (withUnits more outcome) = withUnits (units ++ more) outcome := by
  cases outcome with
  | error failure => rfl
  | ok parts => simp [withUnits, Except.map]

/-- A written character is read as its units, before whatever else is read. -/
theorem readUnits_writtenChar (c : Char) {tail : List Char} (htail : tail ≠ []) :
    readUnits (writtenChar c ++ tail) = withUnits (unitsOf c) (readUnits tail) := by
  have hwriting := writing_writtenChar c
  generalize writtenChar c = written at hwriting
  cases hwriting with
  | short hshort hletter _ hescape =>
      rw [unitsOf, if_pos hshort]
      exact readUnits_escape hletter hescape tail
  | plain hquote hslash hprintable =>
      have hshort : c.toNat < 0x10000 := Nat.lt_trans hprintable.2 (by decide)
      rw [unitsOf, if_pos hshort]
      exact readUnits_plain hquote hslash hprintable.1 tail
  | unit hshort =>
      rw [unitsOf, if_pos hshort]
      exact readUnits_unitEscape hshort htail
  | pair hlong =>
      have hrange := toNat_range c
      have hlow : unitEscape (0xdc00 + (c.toNat - 0x10000) % 0x400) ++ tail ≠ [] := by
        simp [unitEscape]
      rw [List.append_assoc, readUnits_unitEscape (by omega) hlow,
        readUnits_unitEscape (by omega) htail, withUnits_withUnits, unitsOf, if_neg (by omega)]
      rfl

theorem readUnits_written (text rest : List Char) :
    readUnits (text.flatMap writtenChar ++ '"' :: rest) = .ok (text.flatMap unitsOf, rest) := by
  induction text with
  | nil => rfl
  | cons c text ih =>
      rw [List.flatMap_cons, List.append_assoc, readUnits_writtenChar c (by simp), ih]
      rfl

theorem joinUnits_flatMap (text : List Char) : joinUnits (text.flatMap unitsOf) = text := by
  induction text with
  | nil => rfl
  | cons c text ih => rw [List.flatMap_cons, joinUnits_unitsOf, ih]

/-- A written text is read up to the quote after it. -/
theorem readString_written (s : String) (rest : List Char) :
    readString (s.toList.flatMap writtenChar ++ '"' :: rest) = .ok (s, rest) := by
  simp only [readString, readUnits_written, joinUnits_flatMap, String.ofList_toList]

/-! ### The characters of a written text -/

theorem hexDigit_printable : ∀ digit < 16, 32 ≤ (hexDigit digit).toNat ∧
    (hexDigit digit).toNat < 127 := by
  decide

theorem unitEscape_printable {unit : Nat} {d : Char} (hd : d ∈ unitEscape unit) :
    isPrintableAscii d := by
  have hdigits : ∀ width n, ∀ c ∈ hexDigits width n, isPrintableAscii c := by
    intro width
    induction width with
    | zero => simp [hexDigits]
    | succ width ih =>
        intro n c hc
        rcases List.mem_append.1 hc with hfirst | hlast
        · exact ih _ c hfirst
        · rw [List.mem_singleton.1 hlast]
          exact hexDigit_printable _ (Nat.mod_lt n (by decide))
  rcases List.mem_cons.1 hd with rfl | hd
  · exact ⟨by decide, by decide⟩
  rcases List.mem_cons.1 hd with rfl | hd
  · exact ⟨by decide, by decide⟩
  · exact hdigits _ _ d hd

theorem writtenChar_printable {c d : Char} (hd : d ∈ writtenChar c) : isPrintableAscii d := by
  have hwriting := writing_writtenChar c
  generalize writtenChar c = written at hwriting hd
  cases hwriting with
  | short _ _ hprintable =>
      rcases List.mem_cons.1 hd with rfl | hd
      · exact ⟨by decide, by decide⟩
      · rw [List.mem_singleton.1 hd]
        exact hprintable
  | plain _ _ hprintable =>
      rw [List.mem_singleton.1 hd]
      exact hprintable
  | unit => exact unitEscape_printable hd
  | pair =>
      rcases List.mem_append.1 hd with hhigh | hlow
      · exact unitEscape_printable hhigh
      · exact unitEscape_printable hlow

theorem writtenString_printable {s : String} {d : Char} (hd : d ∈ writtenString s) :
    isPrintableAscii d := by
  rcases List.mem_cons.1 hd with rfl | hd
  · exact ⟨by decide, by decide⟩
  rcases List.mem_append.1 hd with hbody | hquote
  · obtain ⟨c, -, hc⟩ := List.mem_flatMap.1 hbody
    exact writtenChar_printable hc
  · rw [List.mem_singleton.1 hquote]
    exact ⟨by decide, by decide⟩

end Json

end RecordMirror
