import RecordMirror.Mode
import RecordMirror.Proofs.Text.Trim
/-!
Which texts name a mode: its name, inside white space, inside quotes, inside white space.  Quotes
need not be closed, and every run of them or of white space may be empty.
-/

namespace RecordMirror.Mode

/-- The texts that name a mode. -/
def Writes (mode : Mode) (text : String) : Prop :=
  ∃ outer quotes inner inner' quotes' outer' : List Char,
    (AllOf isBlank outer ∧ AllOf isQuote quotes ∧ AllOf isBlank inner) ∧
    (AllOf isBlank inner' ∧ AllOf isQuote quotes' ∧ AllOf isBlank outer') ∧
    text.toList = outer ++ quotes ++ inner ++ mode.name.toList ++ inner' ++ quotes' ++ outer'

theorem ofName?_eq_some_iff {text : String} {mode : Mode} :
    ofName? text = some mode ↔ text = mode.name := by
  constructor
  · intro h
    have hname := List.find?_some h
    exact (beq_iff_eq.1 hname).symm
  · rintro rfl
    exact ofName?_name mode

theorem name_free_blank (mode : Mode) : Free isBlank mode.name.toList :=
  free_of_any (by cases mode <;> decide) (by cases mode <;> decide)

theorem name_free_quote (mode : Mode) : Free isQuote mode.name.toList :=
  free_of_any (by cases mode <;> decide) (by cases mode <;> decide)

theorem not_quote_of_blank {c : Char} (h : isBlank c = true) : isQuote c = false := by
  rw [isQuote, Bool.or_eq_false_iff, beq_eq_false_iff_ne, beq_eq_false_iff_ne]
  constructor
  · rintro rfl
    revert h
    decide
  · rintro rfl
    revert h
    decide

/-- Nothing is left of white space, quotes and white space.  If there are no quotes, then all the
white space goes at once. -/
theorem dropWhile_runs {outer quotes inner : List Char} (houter : AllOf isBlank outer)
    (hquotes : AllOf isQuote quotes) (hinner : AllOf isBlank inner) :
    (((outer ++ quotes ++ inner).dropWhile isBlank).dropWhile isQuote).dropWhile isBlank = [] := by
  have hspace : inner.dropWhile isBlank = [] := List.dropWhile_eq_nil_iff.2 hinner
  rw [List.append_assoc, List.dropWhile_append_of_pos houter]
  cases quotes with
  | nil => rw [List.nil_append, hspace, List.dropWhile_nil, List.dropWhile_nil]
  | cons quote rest =>
      have hquote : ¬ isBlank quote = true := by
        intro hblank
        have hnot := not_quote_of_blank hblank
        rw [hquotes quote List.mem_cons_self] at hnot
        cases hnot
      rw [List.cons_append, List.dropWhile_cons_of_neg hquote, ← List.cons_append,
        List.dropWhile_append_of_pos hquotes]
      cases inner with
      | nil => rfl
      | cons c inner =>
          have hc := not_quote_of_blank (hinner c List.mem_cons_self)
          rw [List.dropWhile_cons_of_neg (by simp [hc]), hspace]

theorem literal_eq_iff {mode : Mode} {text : String} :
    literal text.toList = mode.name.toList ↔ mode.Writes text := by
  constructor
  · intro hliteral
    obtain ⟨outer, outer', houter, houter', htext⟩ := exists_trimBoth isBlank text.toList
    obtain ⟨quotes, quotes', hquotes, hquotes', hbare⟩ :=
      exists_trimBoth isQuote (trimBoth isBlank text.toList)
    obtain ⟨inner, inner', hinner, hinner', hunquoted⟩ :=
      exists_trimBoth isBlank (trimBoth isQuote (trimBoth isBlank text.toList))
    rw [literal] at hliteral
    rw [hliteral] at hunquoted
    refine ⟨outer, quotes, inner, inner', quotes', outer', ⟨houter, hquotes, hinner⟩,
      ⟨hinner', hquotes', houter'⟩, ?_⟩
    rw [htext, hbare, hunquoted]
    simp only [List.append_assoc]
  · rintro ⟨outer, quotes, inner, inner', quotes', outer', ⟨houter, hquotes, hinner⟩,
      ⟨hinner', hquotes', houter'⟩, htext⟩
    have hsplit : text.toList =
        (outer ++ quotes ++ inner) ++ mode.name.toList ++ (inner' ++ quotes' ++ outer') := by
      rw [htext]
      simp only [List.append_assoc]
    have hleft := dropWhile_runs houter hquotes hinner
    have hright := dropWhile_runs houter'.reverse hquotes'.reverse hinner'.reverse
    have hreverse : (inner' ++ quotes' ++ outer').reverse =
        outer'.reverse ++ quotes'.reverse ++ inner'.reverse := by
      simp only [List.reverse_append, List.append_assoc]
    rw [literal, hsplit, (name_free_blank mode).trimBoth, (name_free_quote mode).trimBoth,
      (name_free_blank mode).trimBoth, hleft, hreverse, List.reverse_reverse, List.reverse_reverse,
      hright]
    simp

theorem parse_eq_ok_iff {text : String} {mode : Mode} :
    parse text = .ok mode ↔ mode.Writes text := by
  have hname : ofName? (String.ofList (literal text.toList)) = some mode ↔ mode.Writes text := by
    rw [ofName?_eq_some_iff, ← String.toList_inj, String.toList_ofList, literal_eq_iff]
  rw [← hname, parse]
  cases ofName? (String.ofList (literal text.toList)) <;> simp

theorem parse_eq_error_iff {text : String} {fault : UnknownMode} :
    parse text = .error fault ↔ fault = ⟨text⟩ ∧ ∀ mode : Mode, ¬ mode.Writes text := by
  simp only [← parse_eq_ok_iff]
  rw [parse]
  cases ofName? (String.ofList (literal text.toList)) with
  | none => simp [eq_comm]
  | some mode => simp

/-- A text that is given names at most one mode, whatever the default is: the one whose name it
holds inside white space and quotes.  Every other text is refused, and the fault holds it
unchanged. -/
theorem resolve_exact (text : String) (default : Mode) :
    (∀ mode, resolve (some text) default = .ok mode ↔ mode.Writes text) ∧
      (∀ fault, resolve (some text) default = .error fault ↔
        fault = ⟨text⟩ ∧ ∀ mode : Mode, ¬ mode.Writes text) ∧
      ∀ mode other : Mode, mode.Writes text → other.Writes text → mode = other := by
  have hparse : resolve (some text) default = parse text := rfl
  rw [hparse]
  refine ⟨fun mode => parse_eq_ok_iff, fun fault => parse_eq_error_iff, ?_⟩
  intro mode other hmode hother
  have hsame : Except.ok mode = Except.ok other :=
    (parse_eq_ok_iff.2 hmode).symm.trans (parse_eq_ok_iff.2 hother)
  exact Except.ok.inj hsame

example : resolve (some " ' readonly\"\t") .observable = .ok .readonly := by decide

example : resolve (some "Readonly") .readonly = .error ⟨"Readonly"⟩ ∧
    resolve (some "") .readonly = .error ⟨""⟩ := by decide

end RecordMirror.Mode
