import RecordMirror.Conversion
import RecordMirror.Proofs.Code.WellFormed
import RecordMirror.Proofs.Schema.TypeText
import RecordMirror.Proofs.TypeExpr.Proper
/-!
The trees of a conversion are well formed, for every type that can be read.
-/

namespace RecordMirror

open Code (TypeHint Expr Statement)

theorem isWordPart_of_isDigit {c : Char} (h : c.isDigit = true) : isWordPart c = true := by
  have hdigits : ∀ n, n < 58 → 48 ≤ n → isWordPart (Char.ofNat n) = true := by decide
  simp only [Char.isDigit, Bool.and_eq_true, decide_eq_true_eq] at h
  have hword := hdigits c.toNat (Nat.lt_succ_of_le h.2) h.1
  rwa [Char.ofNat_toNat] at hword

namespace TypeExpr

/-- The records whose names are written for the keys of maps. -/
def keyRecords : TypeExpr → List String
  | primitive _ => []
  | reference _ => []
  | optional inner => inner.keyRecords
  | list element => element.keyRecords
  | set element => element.keyRecords
  | map (.reference record) value => record :: value.keyRecords
  | map _ value => value.keyRecords

theorem Proper.isWord_of_mem_references {e : TypeExpr} (h : e.Proper) :
    ∀ record ∈ e.references, isWord record.toList = true := by
  induction e with
  | primitive type => exact List.forall_mem_nil _
  | reference record => exact List.forall_mem_singleton.2 h
  | optional inner ih => exact ih h.2
  | list element ih | set element ih => exact ih h
  | map key value _ ih => exact ih h.2.2

theorem Proper.isWord_of_mem_keyRecords {e : TypeExpr} (h : e.Proper) :
    ∀ record ∈ e.keyRecords, isWord record.toList = true := by
  induction e with
  | primitive type => exact List.forall_mem_nil _
  | reference record => exact List.forall_mem_nil _
  | optional inner ih => exact ih h.2
  | list element ih | set element ih => exact ih h
  | map key value _ ih =>
      cases key with
      | primitive type => exact ih h.2.2
      | reference record => exact List.forall_mem_cons.2 ⟨h.2.1, ih h.2.2⟩
      | optional | list | set | map => cases h.1

end TypeExpr

namespace Conversion

/-- What stands after the stem of a loop variable: an underscore and a number inside other loops. -/
def numbering (depth : Nat) : List Char :=
  if depth = 0 then [] else '_' :: Nat.toDigits 10 depth

theorem loopVariable_eq_numbering (stem : String) (depth : Nat) :
    (loopVariable stem depth).toList = stem.toList ++ numbering depth := by
  have hunderscore : (toString "_").toList = ['_'] := by decide
  have hstem : toString stem = stem := rfl
  unfold loopVariable numbering
  split
  · rw [List.append_nil]
  · simp [hunderscore, hstem]

theorem loopVariable_eq_append (stem : String) (depth : Nat) :
    ∃ rest, (loopVariable stem depth).toList = stem.toList ++ rest ∧
      ∀ c ∈ rest, c = '_' ∨ c.isDigit = true := by
  refine ⟨numbering depth, loopVariable_eq_numbering stem depth, ?_⟩
  unfold numbering
  split
  · exact List.forall_mem_nil _
  · intro c hc
    rcases List.mem_cons.1 hc with rfl | hc
    · exact Or.inl rfl
    · exact Or.inr (Nat.isDigit_of_mem_toDigits (by decide) (by decide) hc)

theorem loopVariable_toList (stem : String) (depth : Nat) :
    ∃ rest, (loopVariable stem depth).toList = stem.toList ++ rest ∧
      ∀ c ∈ rest, isWordPart c = true := by
  obtain ⟨rest, hrest, hparts⟩ := loopVariable_eq_append stem depth
  refine ⟨rest, hrest, ?_⟩
  intro c hc
  rcases hparts c hc with rfl | hdigit
  · decide
  · exact isWordPart_of_isDigit hdigit

theorem loopVariable_isWord (stem : String) (hstem : isWord stem.toList = true) (depth : Nat) :
    isWord (loopVariable stem depth).toList = true := by
  obtain ⟨rest, hrest, hparts⟩ := loopVariable_toList stem depth
  rw [hrest]
  exact isWord_append hstem hparts

/-- Loop variables of stems neither of which begins the other are different. -/
theorem loopVariable_ne {stem other : String} (depth depth' : Nat)
    (h : ¬ stem.toList <+: other.toList ∧ ¬ other.toList <+: stem.toList) :
    loopVariable stem depth ≠ loopVariable other depth' := by
  intro heq
  obtain ⟨rest, hrest, -⟩ := loopVariable_toList stem depth
  obtain ⟨rest', hrest', -⟩ := loopVariable_toList other depth'
  rw [heq, hrest'] at hrest
  rcases List.append_eq_append_iff.1 hrest with ⟨more, hmore, -⟩ | ⟨more, hmore, -⟩
  · exact h.2 ⟨more, hmore.symm⟩
  · exact h.1 ⟨more, hmore.symm⟩

theorem mirrorName_isWord (mode : Mode) {record : String} (h : isWord record.toList = true) :
    isWord (mode.mirrorName record).toList = true := by
  have hstart : isWord mode.style.namePrefix.toList = true := by cases mode <;> decide
  rw [Mode.mirrorName, String.toList_append]
  exact isWord_append hstart fun c hc => isWordPart_of_mem h hc

theorem hintText_isWord (type : Primitive) : isWord type.hintText.toList = true := by
  cases type <;> decide

/-! ### Names -/

/-- The stems of loop variables. -/
def loopStems : List String :=
  ["item", "key", "value"]

/-- What holds of the names that conversions write beside those of a schema. -/
structure HoldsOfLocals (P : String → Prop) : Prop where
  loops : ∀ stem ∈ loopStems, ∀ depth, P (loopVariable stem depth)
  self : P "self"
  persisted : P persistedObject

theorem holdsOfLocals_isWord : HoldsOfLocals fun name => isWord name.toList = true where
  loops stem hstem depth := by
    have hstems : ∀ stem ∈ loopStems, isWord stem.toList = true := by decide
    exact loopVariable_isWord stem (hstems stem hstem) depth
  self := by decide
  persisted := by decide

/-! ### Annotations -/

/-- The annotation of a map key. -/
def keyHintOf : TypeExpr → TypeHint
  | .primitive type => .name type.hintText
  | .reference record => .name record
  | _ => .name ""

/-- How the values of types look on one side of a conversion: the containers, and the classes of the
objects that references stand for. -/
structure Side where
  ordered : Container
  distinct : Container
  keyed : Container
  className : String → String

/-- The side of the records. -/
def recordSide : Side :=
  ⟨.list, .set, .dict, id⟩

/-- The side of the mirrors of a mode. -/
def mirrorSide (mode : Mode) : Side :=
  ⟨mode.style.sequence, mode.style.set, mode.style.mapping, mode.mirrorName⟩

/-- The annotation of the values of a type on one side. -/
def hintOf (side : Side) : TypeExpr → TypeHint
  | .primitive type => .name type.hintText
  | .reference record => .name (side.className record)
  | .optional inner => .optional (hintOf side inner)
  | .list element => .sequence side.ordered (hintOf side element)
  | .set element => .set side.distinct (hintOf side element)
  | .map key value => .mapping side.keyed (keyHintOf key) (hintOf side value)

theorem keyHint_of_isScalar {key : TypeExpr} (h : key.isScalar = true) :
    keyHint key = .ok (keyHintOf key) := by
  cases key with
  | primitive | reference => rfl
  | optional | list | set | map => cases h

theorem typeHint_of_proper (mode : Mode) {e : TypeExpr} (h : e.Proper) :
    typeHint mode e = .ok (hintOf (mirrorSide mode) e) := by
  induction e with
  | primitive | reference => rfl
  | optional inner ih =>
      rw [typeHint, ih h.2]
      rfl
  | list element ih =>
      rw [typeHint, ih h]
      rfl
  | set element ih =>
      rw [typeHint, ih h]
      rfl
  | map key value _ ih =>
      rw [typeHint, keyHint_of_isScalar h.1, ih h.2.2]
      rfl

section

variable {P : String → Prop} {mode : Mode} {e : TypeExpr}

theorem hintOf_wellNamed (hprimitive : ∀ type : Primitive, P type.hintText)
    (hmirrors : ∀ record ∈ e.references, P (mode.mirrorName record))
    (hkeys : ∀ record ∈ e.keyRecords, P record) (he : e.Proper) :
    (hintOf (mirrorSide mode) e).WellNamed P := by
  induction e with
  | primitive type => exact hprimitive type
  | reference record => exact hmirrors record List.mem_cons_self
  | optional inner ih => exact ih hmirrors hkeys he.2
  | list element ih | set element ih => exact ⟨by cases mode <;> rfl, ih hmirrors hkeys he⟩
  | map key value _ ih =>
      cases key with
      | primitive type =>
          exact ⟨by cases mode <;> rfl, hprimitive type, ih hmirrors hkeys he.2.2⟩
      | reference record =>
          obtain ⟨hkey, hkeys⟩ := List.forall_mem_cons.1 hkeys
          exact ⟨by cases mode <;> rfl, hkey, ih hmirrors hkeys he.2.2⟩
      | optional | list | set | map => cases he.1

end

theorem hintOf_mirrorSide_wellFormed (mode : Mode) {e : TypeExpr} (h : e.Proper) :
    (hintOf (mirrorSide mode) e).WellFormed :=
  hintOf_wellNamed hintText_isWord
    (fun record hrecord => mirrorName_isWord mode (h.isWord_of_mem_references record hrecord))
    h.isWord_of_mem_keyRecords h

/-! ### Expressions -/

theorem forward_isConditional {mode : Mode} {e : TypeExpr} (he : e.isOptional = false)
    {source : Expr} (hsource : source.isConditional = false) (depth : Nat) :
    (forward mode e source depth).isConditional = false := by
  cases e with
  | optional => cases he
  | primitive => exact hsource
  | reference => rfl
  | list | set =>
      rw [forward]
      split <;> rfl
  | map =>
      simp only [forward]
      split
      · rfl
      · split <;> rfl

theorem forward_wellNamed {P : String → Prop} {mode : Mode} {e : TypeExpr} {source : Expr}
    (hlocals : HoldsOfLocals P) (hmirrors : ∀ record ∈ e.references, P (mode.mirrorName record))
    (he : e.Proper) (hsource : source.WellNamed P) (hplain : source.isConditional = false)
    (depth : Nat) : (forward mode e source depth).WellNamed P := by
  induction e generalizing source depth with
  | primitive => exact hsource
  | reference record => exact ⟨hmirrors record List.mem_cons_self, hsource⟩
  | optional inner ih =>
      rw [forward]
      split
      · exact hsource
      · exact ⟨ih hmirrors he.2 hsource hplain depth, forward_isConditional he.1 hplain depth,
          hsource, hplain⟩
  | list element ih | set element ih =>
      have hitem := hlocals.loops "item" (by decide) depth
      have helement := ih hmirrors he (show (Expr.name _).WellNamed P from hitem) rfl (depth + 1)
      rw [forward]
      split
      · exact hsource
      · exact ⟨by cases mode <;> rfl, helement, hitem, hsource, hplain⟩
  | map key value _ ih =>
      have hkey := hlocals.loops "key" (by decide) depth
      have hvalue := hlocals.loops "value" (by decide) depth
      have hne : loopVariable "key" depth ≠ loopVariable "value" depth :=
        loopVariable_ne depth depth (by decide)
      have hpairs :=
        ih hmirrors he.2.2 (show (Expr.name _).WellNamed P from hvalue) rfl (depth + 1)
      simp only [forward]
      split
      · exact hsource
      · split
        · exact ⟨hkey, hvalue, hne, hpairs, hsource, hplain⟩
        · exact ⟨hkey, hvalue, hne, hpairs, hsource, hplain⟩

theorem forward_wellFormed (mode : Mode) {e : TypeExpr} (he : e.Proper) {source : Expr}
    (hsource : source.WellFormed) (hplain : source.isConditional = false) (depth : Nat) :
    (forward mode e source depth).WellFormed :=
  forward_wellNamed holdsOfLocals_isWord
    (fun record hrecord => mirrorName_isWord mode (he.isWord_of_mem_references record hrecord))
    he hsource hplain depth

theorem backward_isConditional {e : TypeExpr} (he : e.isOptional = false)
    {source : Expr} (hsource : source.isConditional = false) (depth : Nat) :
    (backward e source depth).isConditional = false := by
  cases e with
  | optional => cases he
  | primitive => exact hsource
  | reference => rfl
  | list | set | map =>
      rw [backward]
      split <;> rfl

section

variable {P : String → Prop} (hlocals : HoldsOfLocals P)
include hlocals

theorem backward_wellNamed {e : TypeExpr} {source : Expr} (he : e.Proper)
    (hsource : source.WellNamed P) (hplain : source.isConditional = false) (depth : Nat) :
    (backward e source depth).WellNamed P := by
  induction e generalizing source depth with
  | primitive => exact hsource
  | reference record => exact ⟨hsource, hplain⟩
  | optional inner ih =>
      rw [backward]
      split
      · exact hsource
      · exact ⟨ih he.2 hsource hplain depth, backward_isConditional he.1 hplain depth, hsource,
          hplain⟩
  | list element ih | set element ih =>
      have hitem := hlocals.loops "item" (by decide) depth
      have helement := ih he (show (Expr.name _).WellNamed P from hitem) rfl (depth + 1)
      rw [backward]
      split
      · exact hsource
      · exact ⟨helement, hitem, hsource, hplain⟩
  | map key value _ ih =>
      have hkey := hlocals.loops "key" (by decide) depth
      have hvalue := hlocals.loops "value" (by decide) depth
      have hne : loopVariable "key" depth ≠ loopVariable "value" depth :=
        loopVariable_ne depth depth (by decide)
      have hpairs := ih he.2.2 (show (Expr.name _).WellNamed P from hvalue) rfl (depth + 1)
      rw [backward]
      split
      · exact hsource
      · exact ⟨hkey, hvalue, hne, hpairs, hsource, hplain⟩

/-! ### Statements -/

theorem fillItems_wellNamed {target source : Expr} (filling : Code.Filling) {element : TypeExpr}
    (he : element.Proper) (htarget : target.IsTarget P) (hsource : source.WellNamed P)
    (hplain : source.isConditional = false) :
    (fillItems target filling element source).WellNamed P := by
  have hitem := hlocals.loops "item" (by decide) 0
  have helement :=
    backward_wellNamed hlocals he (show (Expr.name _).WellNamed P from hitem) rfl 1
  unfold fillItems
  split
  · exact ⟨htarget, hsource⟩
  · exact ⟨htarget, helement, hitem, hsource, hplain⟩

theorem statement_wellNamed {e : TypeExpr} (he : e.Proper) {field : String} (hfield : P field) :
    (statement e field).WellNamed P := by
  have htarget : (Expr.member (.name persistedObject) field).IsTarget P :=
    ⟨_, _, rfl, hlocals.persisted, rfl, hfield⟩
  have hsource : (Expr.member (.name "self") field).WellNamed P := ⟨hlocals.self, rfl, hfield⟩
  cases e with
  | list element => exact fillItems_wellNamed hlocals .extend he htarget hsource rfl
  | set element => exact fillItems_wellNamed hlocals .update he htarget hsource rfl
  | map key value =>
      simp only [statement]
      split
      · exact ⟨htarget, hsource⟩
      · exact ⟨htarget, backward_wellNamed hlocals he hsource rfl 0⟩
  | primitive | reference | optional =>
      exact ⟨htarget, backward_wellNamed hlocals he hsource rfl 0⟩

end

theorem statement_wellFormed {e : TypeExpr} (he : e.Proper) {field : String}
    (hfield : isWord field.toList = true) : (statement e field).WellFormed :=
  statement_wellNamed holdsOfLocals_isWord he hfield

end Conversion

end RecordMirror
