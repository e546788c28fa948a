import Mathlib.Data.List.Pairwise
import RecordMirror.Proofs.Token.Lexeme
/-!
The order of places.  Every piece of a source moves the place on, so the tokens stand in the order
of their places and no two of them stand at the same.
-/

namespace RecordMirror

namespace Position

/-- One place stands before another in a text. -/
def Before (p q : Position) : Prop :=
  p.line < q.line ∨ p.line = q.line ∧ p.column < q.column

variable {p q r : Position}

theorem Before.trans (hpq : p.Before q) (hqr : q.Before r) : p.Before r := by
  unfold Before at *
  omega

theorem Before.ne (h : p.Before q) : p ≠ q := by
  rintro rfl
  unfold Before at h
  omega

theorem before_advance (p : Position) (c : Char) : p.Before (p.advance c) := by
  unfold Before advance
  split
  · exact Or.inl (Nat.lt_succ_self _)
  · exact Or.inr ⟨rfl, Nat.lt_succ_self _⟩

theorem before_after (p : Position) {text : List Char} (htext : text ≠ []) :
    p.Before (p.after text) := by
  induction text generalizing p with
  | nil => exact absurd rfl htext
  | cons c text ih =>
      rw [after_cons]
      by_cases hlast : text = []
      · rw [hlast]
        exact before_advance p c
      · exact (before_advance p c).trans (ih _ hlast)

end Position

namespace Piece

theorem Cuts.raw_ne_nil {text : List Char} {pieces : List Piece} (h : Cuts text pieces) :
    ∀ piece ∈ pieces, piece.raw ≠ [] := by
  induction h with
  | nil => simp
  | cons hread _ ih =>
      rw [List.forall_mem_cons]
      refine ⟨?_, ih⟩
      intro hempty
      have hshorter := read_length hread
      have hall := read_append hread
      rw [hempty, List.nil_append] at hall
      rw [hall] at hshorter
      exact Nat.lt_irrefl _ hshorter

/-- The tokens of some pieces, by induction on the pieces: what comes after a piece stands after
its place. -/
theorem streamFrom_in_order (p : Position) {pieces : List Piece}
    (hraw : ∀ piece ∈ pieces, piece.raw ≠ []) :
    ((streamFrom p pieces).toList.Pairwise fun s t => s.position.Before t.position) ∧
      ∀ t ∈ (streamFrom p pieces).toList, t.position = p ∨ p.Before t.position := by
  induction pieces generalizing p with
  | nil =>
      refine ⟨List.pairwise_singleton _ _, ?_⟩
      intro t ht
      cases List.mem_singleton.1 ht
      exact Or.inl rfl
  | cons piece rest ih =>
      obtain ⟨hpiece, hrest⟩ := List.forall_mem_cons.1 hraw
      obtain ⟨horder, hplaces⟩ := ih (p.after piece.raw) hrest
      have hmoved : ∀ t ∈ (streamFrom (p.after piece.raw) rest).toList, p.Before t.position := by
        intro t ht
        have hafter := p.before_after hpiece
        rcases hplaces t ht with hplace | hplace
        · rwa [hplace]
        · exact hafter.trans hplace
      cases hlexeme : piece.lexeme? with
      | none =>
          simp only [streamFrom, hlexeme]
          exact ⟨horder, fun t ht => Or.inr (hmoved t ht)⟩
      | some lexeme =>
          simp only [streamFrom, hlexeme]
          refine ⟨List.pairwise_cons.2 ⟨hmoved, horder⟩, ?_⟩
          intro t ht
          rcases List.mem_cons.1 ht with rfl | hlater
          · exact Or.inl rfl
          · exact Or.inr (hmoved t hlater)

end Piece

namespace Token

variable {source : String} {stream : TokenStream} {s t : Token}

theorem scan_in_order (h : scan source = .ok stream) :
    stream.toList.Pairwise fun s t => s.position.Before t.position := by
  obtain ⟨pieces, hcuts, rfl⟩ := Token.scanFrom_eq_ok_iff.1 h
  exact (Piece.streamFrom_in_order _ hcuts.raw_ne_nil).1

/-- A token of a source is determined by its place. -/
theorem eq_of_position (h : scan source = .ok stream) (hs : s ∈ stream.toList)
    (ht : t ∈ stream.toList) (hplace : s.position = t.position) : s = t := by
  by_contra hne
  have hapart : stream.toList.Pairwise fun s t => s.position ≠ t.position :=
    (scan_in_order h).imp Position.Before.ne
  have : Std.Symm fun s t : Token => s.position ≠ t.position := ⟨fun _ _ => Ne.symm⟩
  exact hapart.forall hs ht hne hplace

end Token

end RecordMirror
