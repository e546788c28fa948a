/-!
Reading at the head of a list.  A reader gives a value and what is left of the list.  That less is
left than there was is what brings a loop over readers to its end.
-/

namespace RecordMirror

/-- What can be left of a list once something has been read from it. -/
abbrev Shorter {α : Type} (whole : List α) : Type :=
  { rest : List α // rest.length < whole.length }

/-- The outcome of a reader, what it leaves known to be shorter than what it was given. -/
def attachShorter {α β ε : Type} {whole : List α} (outcome : Except ε (β × List α))
    (shorter : ∀ {value : β} {rest : List α}, outcome = .ok (value, rest) →
      rest.length < whole.length) : Except ε (β × Shorter whole) :=
  match outcome, @shorter with
  | .error e, _ => .error e
  | .ok (value, rest), shorter => .ok (value, ⟨rest, shorter rfl⟩)

section

variable {α β ε : Type} {whole : List α} {outcome : Except ε (β × List α)}
  {shorter : ∀ {value : β} {rest : List α}, outcome = .ok (value, rest) →
    rest.length < whole.length}

@[simp] theorem attachShorter_eq_ok {value : β} {left : Shorter whole} :
    attachShorter outcome shorter = .ok (value, left) ↔ outcome = .ok (value, left.val) := by
  obtain ⟨rest, hrest⟩ := left
  rcases outcome with e | ⟨v, r⟩ <;> simp [attachShorter]

@[simp] theorem attachShorter_eq_error {e : ε} :
    attachShorter outcome shorter = .error e ↔ outcome = .error e := by
  rcases outcome with e | ⟨v, r⟩ <;> simp [attachShorter]

end

end RecordMirror
