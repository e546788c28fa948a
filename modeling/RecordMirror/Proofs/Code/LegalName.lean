import RecordMirror.Proofs.Code.NameForm
import RecordMirror.Proofs.Code.Names
/-!
Which names can be written in generated code, and which fields can be read as code.  The words of
schemas are more than the identifiers of the generated code, and some identifiers are reserved.
-/

namespace RecordMirror

open Code Conversion

/-- A name that can be written in the generated code: an identifier that is no reserved word. -/
structure LegalName (name : String) : Prop where
  identifier : isIdentifier name = true
  not_reserved : name ∉ reservedWords

instance (name : String) : Decidable (LegalName name) :=
  decidable_of_iff (isIdentifier name = true ∧ name ∉ reservedWords)
    ⟨fun h => ⟨h.1, h.2⟩, fun h => ⟨h.identifier, h.not_reserved⟩⟩

/-! ### Identifiers -/

theorem isIdentifierPart_of_isIdentifier {name : String} (h : isIdentifier name = true) {c : Char}
    (hc : c ∈ name.toList) : isIdentifierPart c = true := by
  unfold isIdentifier at h
  split at h
  · cases h
  · rename_i first rest hname
    rw [Bool.and_eq_true, List.all_eq_true] at h
    rw [hname] at hc
    rcases List.mem_cons.1 hc with rfl | hc
    · rw [isIdentifierPart, h.1, Bool.true_or]
    · exact h.2 c hc

/-- What begins with an identifier is one if what follows continues it. -/
theorem isIdentifier_append_iff {name more : String} (h : isIdentifier name = true) :
    isIdentifier (name ++ more) = true ↔ ∀ c ∈ more.toList, isIdentifierPart c = true := by
  constructor
  · intro happend c hc
    apply isIdentifierPart_of_isIdentifier happend
    rw [String.toList_append]
    exact List.mem_append_right _ hc
  · intro hmore
    cases hname : name.toList with
    | nil =>
        rw [isIdentifier, hname] at h
        cases h
    | cons first rest =>
        rw [isIdentifier, hname] at h
        rw [isIdentifier, String.toList_append, hname]
        simp only [List.cons_append, Bool.and_eq_true, List.all_append, List.all_eq_true] at h ⊢
        exact ⟨h.1, h.2, hmore⟩

theorem isIdentifierPart_of_isDigit {c : Char} (h : c.isDigit = true) :
    isIdentifierPart c = true := by
  have hdigits : ∀ n, n < 58 → 48 ≤ n → isIdentifierPart (Char.ofNat n) = true := by decide
  simp only [Char.isDigit, Bool.and_eq_true, decide_eq_true_eq] at h
  have hpart := hdigits c.toNat (Nat.lt_succ_of_le h.2) h.1
  rwa [Char.ofNat_toNat] at hpart

theorem legalName_loopVariable {stem : String} (hstem : stem ∈ loopStems) (depth : Nat) :
    LegalName (loopVariable stem depth) := by
  obtain ⟨rest, hrest, hparts⟩ := loopVariable_eq_append stem depth
  have happend : loopVariable stem depth = stem ++ String.ofList rest := by
    rw [← String.toList_inj, hrest, String.toList_append, String.toList_ofList]
  have hidentifier : ∀ stem ∈ loopStems, isIdentifier stem = true := by decide
  have hreserved : ∀ stem ∈ loopStems, ∀ word ∈ reservedWords, ¬ stem.toList <+: word.toList := by
    decide
  refine ⟨?_, not_mem_of_start (hreserved stem hstem) ⟨rest, hrest.symm⟩⟩
  rw [happend, isIdentifier_append_iff (hidentifier stem hstem), String.toList_ofList]
  intro c hc
  rcases hparts c hc with rfl | hdigit
  · decide
  · exact isIdentifierPart_of_isDigit hdigit

theorem mirrorName_not_reserved (mode : Mode) (record : String) :
    mode.mirrorName record ∉ reservedWords := by
  have hreserved : ∀ word ∈ reservedWords, ¬ mode.style.namePrefix.toList <+: word.toList := by
    cases mode <;> decide
  exact Mode.mirrorName_not_mem hreserved record

/-- The name of a mirror is legal if the name of the record can go on an identifier. -/
theorem legalName_mirrorName_iff {mode : Mode} {record : String} :
    LegalName (mode.mirrorName record) ↔ ∀ c ∈ record.toList, isIdentifierPart c = true := by
  have hidentifier : isIdentifier mode.style.namePrefix = true := by cases mode <;> decide
  rw [← isIdentifier_append_iff hidentifier]
  constructor
  · exact LegalName.identifier
  · intro h
    exact ⟨h, mirrorName_not_reserved mode record⟩

theorem holdsOfLocals_legalName : HoldsOfLocals LegalName where
  loops _ hstem depth := legalName_loopVariable hstem depth
  self := by decide
  persisted := by decide

theorem legalName_hintText (type : Primitive) : LegalName type.hintText := by
  cases type <;> decide

/-! ### Fields -/

/-- A field whose declaration and conversions can be read as code.  The constant `__debug__` is an
identifier, but can be neither declared nor assigned to. -/
structure Code.MirrorField.IsCode (N : NameForm) (field : MirrorField) : Prop where
  legal : field.WellNamed LegalName
  assignable : N.form field.name ≠ "__debug__"

theorem ofType_isCode_iff {N : NameForm} {mode : Mode} {name : String} {e : TypeExpr}
    (he : e.Proper) :
    (MirrorField.ofType mode name e).IsCode N ↔
      (LegalName name ∧ N.form name ≠ "__debug__") ∧
        (∀ record ∈ e.references, ∀ c ∈ record.toList, isIdentifierPart c = true) ∧
        ∀ record ∈ e.keyRecords, LegalName record := by
  have hlegal : (MirrorField.ofType mode name e).WellNamed LegalName ↔ _ :=
    ofType_wellNamed_iff holdsOfLocals_legalName legalName_hintText he
  simp only [legalName_mirrorName_iff] at hlegal
  constructor
  · rintro ⟨hnames, hassignable⟩
    obtain ⟨hname, hothers⟩ := hlegal.1 hnames
    exact ⟨⟨hname, hassignable⟩, hothers⟩
  · rintro ⟨⟨hname, hassignable⟩, hothers⟩
    exact ⟨hlegal.2 ⟨hname, hothers⟩, hassignable⟩

end RecordMirror
