import RecordMirror.Mode
import RecordMirror.Proofs.Token.Lexeme
/-!
How the names of generated code are compared, and what they stand for in the body of a class.  A
name that begins with two underscores and does not end with two belongs to the class in whose body
it is written: there it stands for another name, which begins with that of the class.
-/

namespace RecordMirror

/-- Whether a name is in ASCII. -/
def isAscii (name : String) : Bool :=
  name.toList.all (·.toNat < 128)

/-- The form in which the generated language compares names.  A name in ASCII is its own form, and
the name of a mirror keeps its prefix apart from the name of the record. -/
structure NameForm where
  form : String → String
  of_ascii : ∀ name : String, isAscii name = true → form name = name
  of_mirror : ∀ (mode : Mode) (record : String), isWord record.toList = true →
    form (mode.mirrorName record) = mode.mirrorName (form record)

theorem NameForm.of_mem_ascii (N : NameForm) {names : List String} {name : String}
    (hname : name ∈ names) (hascii : ∀ name ∈ names, isAscii name = true) :
    N.form name = name :=
  N.of_ascii name (hascii name hname)

/-- Names that are compared as they are written. -/
def NameForm.asWritten : NameForm where
  form := id
  of_ascii _ _ := rfl
  of_mirror _ _ _ := rfl

/-- Whether a name belongs to the class in whose body it is written. -/
def isPrivate (name : String) : Bool :=
  "__".toList.isPrefixOf name.toList && !"__".toList.isSuffixOf name.toList

/-- What a name stands for in the body of a class.  The name of the class is put before a private
name without the underscores that it begins with; if it has no other characters, private names
stand for themselves. -/
def nameIn (owner name : String) : String :=
  let stem := owner.toList.dropWhile (· == '_')
  if isPrivate name && !stem.isEmpty then "_" ++ String.ofList stem ++ name else name

/-! ### Private names -/

variable {owner name record : String} {mode : Mode}

/-- A name that begins with another character than an underscore is not private. -/
theorem isPrivate_of_prefix {start : String} (hstart : start.toList <+: name.toList)
    (hnone : start.toList.head?.any (· != '_') = true) : isPrivate name = false := by
  obtain ⟨rest, hrest⟩ := hstart
  cases hchars : start.toList with
  | nil =>
      rw [hchars] at hnone
      cases hnone
  | cons first others =>
      have hfirst : ¬ '_' = first := by
        rw [hchars] at hnone
        exact fun heq => bne_iff_ne.1 hnone heq.symm
      have hunderscores : "__".toList = ['_', '_'] := by decide
      rw [hchars, List.cons_append] at hrest
      rw [isPrivate, ← hrest, hunderscores]
      simp [List.isPrefixOf, hfirst]

theorem mirrorName_not_private (mode : Mode) (record : String) :
    isPrivate (mode.mirrorName record) = false := by
  have hstart : mode.style.namePrefix.toList <+: (mode.mirrorName record).toList := by
    rw [Mode.mirrorName, String.toList_append]
    exact List.prefix_append _ _
  exact isPrivate_of_prefix hstart (by cases mode <;> decide)

/-! ### Names in the body of a class -/

theorem nameIn_of_not_private (h : isPrivate name = false) : nameIn owner name = name := by
  simp [nameIn, h]

theorem nameIn_mirrorName (mode : Mode) (record : String) (h : isPrivate name = true) :
    nameIn (mode.mirrorName record) name = "_" ++ mode.mirrorName record ++ name := by
  have hstem : (mode.mirrorName record).toList.dropWhile (· == '_') =
      (mode.mirrorName record).toList := by
    rw [Mode.mirrorName, String.toList_append]
    cases mode <;> rfl
  have hne : (mode.mirrorName record).toList.isEmpty = false := by
    rw [Mode.mirrorName, String.toList_append]
    cases mode <;> rfl
  simp [nameIn, h, hstem, hne]

theorem length_lt_nameIn_mirrorName (mode : Mode) (record : String) (h : isPrivate name = true) :
    name.length < (nameIn (mode.mirrorName record) name).length := by
  rw [nameIn_mirrorName mode record h, String.length_append, String.length_append]
  exact Nat.lt_add_of_pos_left (Nat.add_pos_left (by decide) _)

/-- In the body of a mirror exactly the private names stand for others. -/
theorem nameIn_mirrorName_eq_self_iff :
    nameIn (mode.mirrorName record) name = name ↔ isPrivate name = false := by
  constructor
  · intro heq
    rw [Bool.eq_false_iff]
    intro hprivate
    have hlength := length_lt_nameIn_mirrorName mode record hprivate
    rw [heq] at hlength
    exact absurd hlength (Nat.lt_irrefl _)
  · exact nameIn_of_not_private

/-- What a name that is written in the body of a class is compared as. -/
def NameForm.inClass (N : NameForm) (owner name : String) : String :=
  nameIn (N.form owner) (N.form name)

namespace NameForm

variable {N : NameForm}

theorem inClass_of_not_private (h : isPrivate (N.form name) = false) :
    N.inClass owner name = N.form name :=
  nameIn_of_not_private h

theorem inClass_mirrorName (hrecord : isWord record.toList = true) :
    N.inClass (mode.mirrorName record) name =
      nameIn (mode.mirrorName (N.form record)) (N.form name) := by
  rw [inClass, N.of_mirror mode record hrecord]

theorem inClass_eq_form_iff (hrecord : isWord record.toList = true) :
    N.inClass (mode.mirrorName record) name = N.form name ↔ isPrivate (N.form name) = false := by
  rw [inClass_mirrorName hrecord, nameIn_mirrorName_eq_self_iff]

end NameForm

end RecordMirror
