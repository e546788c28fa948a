import RecordMirror.Proofs.Code.Globals
import RecordMirror.Proofs.Mapping
/-!
The loops in conversions.  Each loop numbers its variables by how many loops are around it, so no
variable hides another one, and none has the name of anything else in the code.
-/

namespace RecordMirror

open Code Conversion

namespace Code

/-- A loop in an expression. -/
structure Loop where
  /-- The variables of the loops around it, those of the innermost first. -/
  around : List (List String)
  /-- The variables that it binds. -/
  bound : List String
  /-- What it runs over. -/
  source : Expr
deriving DecidableEq, Repr

/-- The loops in an expression that has some loops around it.  What a loop runs over is not inside
it. -/
def Expr.loops : Expr → List (List String) → List Loop
  | name _, _ => []
  | member object _, around => object.loops around
  | fromPersisted _ record, around => record.loops around
  | buildPersisted mirror, around => mirror.loops around
  | construct _ source, around => source.loops around
  | constructEach _ value item source, around | displayEach _ value item source, around =>
    ⟨around, [item], source⟩ :: (value.loops ([item] :: around) ++ source.loops around)
  | pairs key item value source, around =>
    ⟨around, [key, item], source⟩ :: (value.loops ([key, item] :: around) ++ source.loops around)
  | ifPresent value subject, around => value.loops around ++ subject.loops around

/-- The loops in a statement. -/
def Statement.loops : Statement → List Loop
  | assign target value => target.loops [] ++ value.loops []
  | fill target _ source => target.loops [] ++ source.loops []
  | fillEach target _ value item source =>
    target.loops [] ++ ⟨[], [item], source⟩ :: (value.loops [[item]] ++ source.loops [])

/-- What a loop with some loops around it runs over: a variable of the one directly around it, or an
access if there is none. -/
def RunsOver (access : Expr) : List (List String) → Expr → Prop
  | [], source => source = access
  | bound :: _, source => ∃ x ∈ bound, source = .name x

/-- The loops of some code clash neither with each other nor with anything else in it. -/
structure LoopsApart (access : Expr) (loops : List Loop) (globals : List String) : Prop where
  /-- The variables of a loop and of all loops around it are different. -/
  distinct : ∀ loop ∈ loops, (loop.bound ++ loop.around.flatten).Nodup
  /-- A variable occurs in the values of loops that bind it, and nowhere else. -/
  inside : ∀ loop ∈ loops, ∀ x ∈ loop.bound, x ∉ globals
  runs : ∀ loop ∈ loops, RunsOver access loop.around loop.source
  /-- No variable is one of a method, or has the name of a mirror class or of a container. -/
  free : ∀ loop ∈ loops, ∀ x ∈ loop.bound, x ∉ methodVariables ∧
    (∀ (mode : Mode) (record : String), mode.mirrorName record ≠ x) ∧
    ∀ container : Container, container.name ≠ x

end Code

namespace Conversion

/-! ### Loop variables -/

/-- A variable of a loop, at whatever depth. -/
def IsLoopVariable (x : String) : Prop :=
  ∃ stem ∈ loopStems, ∃ depth, loopVariable stem depth = x

theorem numbering_injective {depth depth' : Nat} (h : numbering depth = numbering depth') :
    depth = depth' := by
  unfold numbering at h
  split at h <;> split at h
  · rename_i hzero hzero'
    rw [hzero, hzero']
  · cases h
  · cases h
  · have hdigits := (List.cons.inj h).2
    simpa using congrArg (fun digits => Nat.ofDigitChars 10 digits 0) hdigits

/-- Loop variables of different depths are different. -/
theorem depth_eq_of_loopVariable_eq {stem other : String} (hstem : stem ∈ loopStems)
    (hother : other ∈ loopStems) {depth depth' : Nat}
    (h : loopVariable stem depth = loopVariable other depth') : depth = depth' := by
  have hstems : ∀ stem ∈ loopStems, ∀ other ∈ loopStems, stem ≠ other →
      ¬ stem.toList <+: other.toList ∧ ¬ other.toList <+: stem.toList := by decide
  by_cases hsame : stem = other
  · subst hsame
    have hlists := congrArg String.toList h
    rw [loopVariable_eq_numbering, loopVariable_eq_numbering] at hlists
    exact numbering_injective (List.append_cancel_left hlists)
  · exact absurd h (loopVariable_ne depth depth' (hstems stem hstem other hother hsame))

theorem IsLoopVariable.not_method {x : String} (h : IsLoopVariable x) : x ∉ methodVariables := by
  obtain ⟨stem, hstem, depth, rfl⟩ := h
  obtain ⟨rest, hrest, -⟩ := loopVariable_toList stem depth
  have hnames : ∀ stem ∈ loopStems, ∀ name ∈ methodVariables, ¬ stem.toList <+: name.toList := by
    decide
  exact not_mem_of_start (hnames stem hstem) ⟨rest, hrest.symm⟩

theorem eq_of_mem_loopStems {stem : String} (h : stem ∈ loopStems) :
    stem = "item" ∨ stem = "key" ∨ stem = "value" := by
  simpa [loopStems] using h

theorem mirrorName_not_loopVariable (mode : Mode) (record : String) :
    ¬ IsLoopVariable (mode.mirrorName record) := by
  rintro ⟨stem, hstem, depth, h⟩
  exact mirrorName_ne_loopVariable mode record depth (eq_of_mem_loopStems hstem) h.symm

theorem container_not_loopVariable (container : Container) :
    ¬ IsLoopVariable container.name := by
  rintro ⟨stem, hstem, depth, h⟩
  exact container_name_ne_loopVariable container depth (eq_of_mem_loopStems hstem) h.symm

/-! ### Numbered loops -/

/-- The variables of a loop at a depth: one for items, or two for the parts of pairs. -/
def LoopVariables (depth : Nat) (bound : List String) : Prop :=
  bound = [loopVariable "item" depth] ∨
    bound = [loopVariable "key" depth, loopVariable "value" depth]

theorem LoopVariables.nodup {depth : Nat} {bound : List String}
    (h : LoopVariables depth bound) : bound.Nodup := by
  rcases h with rfl | rfl
  · exact List.nodup_singleton _
  · have hne : loopVariable "key" depth ≠ loopVariable "value" depth :=
      loopVariable_ne depth depth (by decide)
    simpa using hne

theorem LoopVariables.stem {depth : Nat} {bound : List String}
    (h : LoopVariables depth bound) :
    ∀ x ∈ bound, ∃ stem ∈ loopStems, loopVariable stem depth = x := by
  rcases h with rfl | rfl
  · simp [loopStems]
  · simp [loopStems]

/-- Loops around each other, the innermost first, each with the variables of its depth. -/
inductive Numbered : List (List String) → Prop
  | nil : Numbered []
  | cons {bound : List String} {around : List (List String)} :
      LoopVariables around.length bound → Numbered around → Numbered (bound :: around)

theorem Numbered.stem {around : List (List String)} (h : Numbered around) :
    ∀ x ∈ around.flatten, ∃ stem ∈ loopStems, ∃ depth < around.length,
      loopVariable stem depth = x := by
  induction h with
  | nil => exact List.forall_mem_nil _
  | cons hvariables _ ih =>
      rw [List.flatten_cons, List.forall_mem_append]
      constructor
      · intro x hx
        obtain ⟨stem, hstem, rfl⟩ := hvariables.stem x hx
        exact ⟨stem, hstem, _, Nat.lt_succ_self _, rfl⟩
      · intro x hx
        obtain ⟨stem, hstem, depth, hdepth, rfl⟩ := ih x hx
        exact ⟨stem, hstem, depth, Nat.lt_succ_of_lt hdepth, rfl⟩

theorem Numbered.nodup {around : List (List String)} (h : Numbered around) :
    around.flatten.Nodup := by
  induction h with
  | nil => exact List.nodup_nil
  | cons hvariables haround ih =>
      rw [List.flatten_cons, List.nodup_append]
      refine ⟨hvariables.nodup, ih, ?_⟩
      rintro x hx y hy rfl
      obtain ⟨stem, hstem, rfl⟩ := hvariables.stem x hx
      obtain ⟨other, hother, depth, hdepth, heq⟩ := haround.stem _ hy
      exact Nat.ne_of_lt hdepth (depth_eq_of_loopVariable_eq hother hstem heq)

/-- A loop that numbers its variables, as all loops around it do, and runs over what it should. -/
structure InOrder (access : Expr) (loop : Loop) : Prop where
  numbered : Numbered (loop.bound :: loop.around)
  runs : RunsOver access loop.around loop.source

section

variable {mode : Mode} {e : TypeExpr} {holder field : String} {source value : Expr}
  {around : List (List String)}

/-- There are no loops in what a loop runs over. -/
theorem loops_of_runsOver (h : RunsOver (.member (.name holder) field) around source) :
    source.loops around = [] := by
  cases around with
  | nil =>
      cases h
      rfl
  | cons bound rest =>
      obtain ⟨x, -, rfl⟩ := h
      rfl

theorem inOrder_of_runsOver (h : RunsOver (.member (.name holder) field) around source) :
    ∀ loop ∈ source.loops around, InOrder (.member (.name holder) field) loop := by
  rw [loops_of_runsOver h]
  exact List.forall_mem_nil _

/-- A loop is in order around others that are. -/
theorem inOrder_cons {bound : List String} (hbound : LoopVariables around.length bound)
    (haround : Numbered around) (hruns : RunsOver (.member (.name holder) field) around source)
    (hvalue : ∀ loop ∈ value.loops (bound :: around), InOrder (.member (.name holder) field) loop) :
    ∀ loop ∈ (⟨around, bound, source⟩ : Loop) ::
      (value.loops (bound :: around) ++ source.loops around),
      InOrder (.member (.name holder) field) loop := by
  rw [loops_of_runsOver hruns, List.append_nil, List.forall_mem_cons]
  exact ⟨⟨.cons hbound haround, hruns⟩, hvalue⟩

theorem loopVariables_item (depth : Nat) : LoopVariables depth [loopVariable "item" depth] :=
  .inl rfl

theorem loopVariables_pair (depth : Nat) :
    LoopVariables depth [loopVariable "key" depth, loopVariable "value" depth] :=
  .inr rfl

theorem forward_inOrder (haround : Numbered around)
    (hruns : RunsOver (.member (.name holder) field) around source) :
    ∀ loop ∈ (forward mode e source around.length).loops around,
      InOrder (.member (.name holder) field) loop := by
  induction e generalizing source around with
  | primitive type => exact inOrder_of_runsOver hruns
  | reference record =>
      have hnone := inOrder_of_runsOver hruns
      exact hnone
  | optional inner ih =>
      have hnone := inOrder_of_runsOver hruns
      rw [forward]
      split
      · exact hnone
      · rw [Expr.loops, List.forall_mem_append]
        exact ⟨ih haround hruns, hnone⟩
  | list element ih | set element ih =>
      have hnone := inOrder_of_runsOver hruns
      have hbound := loopVariables_item around.length
      have helement := ih (.cons hbound haround) ⟨_, List.mem_singleton_self _, rfl⟩
      rw [forward]
      split
      · exact hnone
      · exact inOrder_cons hbound haround hruns helement
  | map key element _ ih =>
      have hnone := inOrder_of_runsOver hruns
      have hbound := loopVariables_pair around.length
      have helement := ih (.cons hbound haround) ⟨_, List.mem_cons_of_mem _ List.mem_cons_self, rfl⟩
      have hpairs := inOrder_cons hbound haround hruns helement
      simp only [forward]
      split
      · exact hnone
      · split
        · exact hpairs
        · exact hpairs

theorem backward_inOrder (haround : Numbered around)
    (hruns : RunsOver (.member (.name holder) field) around source) :
    ∀ loop ∈ (backward e source around.length).loops around,
      InOrder (.member (.name holder) field) loop := by
  induction e generalizing source around with
  | primitive type => exact inOrder_of_runsOver hruns
  | reference record =>
      have hnone := inOrder_of_runsOver hruns
      exact hnone
  | optional inner ih =>
      have hnone := inOrder_of_runsOver hruns
      rw [backward]
      split
      · exact hnone
      · rw [Expr.loops, List.forall_mem_append]
        exact ⟨ih haround hruns, hnone⟩
  | list element ih | set element ih =>
      have hnone := inOrder_of_runsOver hruns
      have hbound := loopVariables_item around.length
      have helement := ih (.cons hbound haround) ⟨_, List.mem_singleton_self _, rfl⟩
      rw [backward]
      split
      · exact hnone
      · exact inOrder_cons hbound haround hruns helement
  | map key element _ ih =>
      have hnone := inOrder_of_runsOver hruns
      have hbound := loopVariables_pair around.length
      have helement := ih (.cons hbound haround) ⟨_, List.mem_cons_of_mem _ List.mem_cons_self, rfl⟩
      rw [backward]
      split
      · exact hnone
      · exact inOrder_cons hbound haround hruns helement

end

theorem fillItems_inOrder {field : String} (filling : Filling) (element : TypeExpr) :
    ∀ loop ∈ (fillItems (.member (.name persistedObject) field) filling element
      (.member (.name "self") field)).loops, InOrder (.member (.name "self") field) loop := by
  have hbound := loopVariables_item 0
  have haround : Numbered [[loopVariable "item" 0]] := .cons hbound .nil
  unfold fillItems
  split
  · exact List.forall_mem_nil _
  · exact inOrder_cons hbound .nil rfl
      (backward_inOrder haround ⟨_, List.mem_singleton_self _, rfl⟩)

theorem statement_inOrder (e : TypeExpr) (field : String) :
    ∀ loop ∈ (statement e field).loops, InOrder (.member (.name "self") field) loop := by
  have hbackward : ∀ e : TypeExpr,
      ∀ loop ∈ (backward e (.member (.name "self") field) 0).loops [],
        InOrder (.member (.name "self") field) loop := fun _ => backward_inOrder .nil rfl
  cases e with
  | list element => exact fillItems_inOrder .extend element
  | set element => exact fillItems_inOrder .update element
  | map key value =>
      simp only [statement]
      split
      · exact List.forall_mem_nil _
      · exact hbackward (.map key value)
  | primitive | reference | optional => exact hbackward _

/-! ### Apart -/

variable {access : Expr} {loops : List Loop} {globals : List String}

/-- Loops that are in order clash with nothing, if no global name is one of their variables. -/
theorem loopsApart_of_inOrder (hloops : ∀ loop ∈ loops, InOrder access loop)
    (hglobals : ∀ name ∈ globals, ¬ IsLoopVariable name) : LoopsApart access loops globals := by
  have hbound : ∀ loop ∈ loops, ∀ x ∈ loop.bound, IsLoopVariable x := by
    intro loop hloop x hx
    have hflat : x ∈ (loop.bound :: loop.around).flatten :=
      List.mem_flatten.2 ⟨_, List.mem_cons_self, hx⟩
    obtain ⟨stem, hstem, depth, -, heq⟩ := (hloops loop hloop).numbered.stem x hflat
    exact ⟨stem, hstem, depth, heq⟩
  refine ⟨fun loop hloop => (hloops loop hloop).numbered.nodup, ?_,
    fun loop hloop => (hloops loop hloop).runs, ?_⟩
  · intro loop hloop x hx hglobal
    exact hglobals x hglobal (hbound loop hloop x hx)
  · intro loop hloop x hx
    have hvariable := hbound loop hloop x hx
    refine ⟨hvariable.not_method, ?_, ?_⟩
    · rintro mode record rfl
      exact mirrorName_not_loopVariable mode record hvariable
    · rintro container rfl
      exact container_not_loopVariable container hvariable

theorem member_globals {holder field : String} {locals : List String} (hholder : holder ∈ locals) :
    ∀ name ∈ (Expr.member (.name holder) field).globals locals, ¬ IsLoopVariable name :=
  globals_local hholder

theorem mirrorExpr_loopsApart (mode : Mode) (e : TypeExpr) (field : String) :
    LoopsApart (.member (.name persistedObject) field) ((mirrorExpr mode e field).loops [])
      ((mirrorExpr mode e field).globals converterVariables) := by
  refine loopsApart_of_inOrder (forward_inOrder .nil rfl) ?_
  apply forward_globals
  · exact fun record _ => mirrorName_not_loopVariable mode record
  · exact container_not_loopVariable mode.style.sequence
  · exact container_not_loopVariable mode.style.set
  · exact fun _ => container_not_loopVariable mode.style.mapping
  · exact member_globals (by decide)

theorem statement_loopsApart (e : TypeExpr) (field : String) :
    LoopsApart (.member (.name "self") field) (statement e field).loops
      ((statement e field).globals builderVariables) :=
  loopsApart_of_inOrder (statement_inOrder e field)
    (statement_globals (container_not_loopVariable .list) (container_not_loopVariable .set)
      (container_not_loopVariable .dict) field)

end Conversion

namespace FieldMapping

/-- The texts of every mapping are those of trees in which loops clash with nothing: neither with
each other nor with the variables of the methods, mirror classes or containers.  Each loop runs over
the field, or over a variable of the loop that is directly around it. -/
theorem ofField_loops_apart {scope : Scope} {mode : Mode} {field : Field} {e : TypeExpr}
    (hname : isWord field.name.toList = true)
    (hparse : TypeExpr.parse field.declaredType = .ok e) (hscope : scope.refusal? mode e = none) :
    ∃ mapping, ofField scope mode field = .ok mapping ∧
      mapping.forward = (mirrorExpr mode e field.name).render ∧
      mapping.backward = (statement e field.name).render ∧
      (mirrorExpr mode e field.name).WellFormed ∧ (statement e field.name).WellFormed ∧
      LoopsApart (.member (.name persistedObject) field.name)
        ((mirrorExpr mode e field.name).loops [])
        ((mirrorExpr mode e field.name).globals converterVariables) ∧
      LoopsApart (.member (.name "self") field.name) (statement e field.name).loops
        ((statement e field.name).globals builderVariables) := by
  have hproper := TypeExpr.proper_of_parse hparse
  have hsource : (Expr.member (.name persistedObject) field.name).WellFormed :=
    ⟨(by decide : isWord persistedObject.toList = true), rfl, hname⟩
  obtain ⟨mapping, hmapping, -, hforward, hbackward⟩ :=
    ofField_of_parse hparse hscope (typeHint_of_proper mode hproper)
  exact ⟨mapping, hmapping, hforward, hbackward,
    forward_wellFormed mode hproper hsource rfl 0, statement_wellFormed hproper hname,
    mirrorExpr_loopsApart mode e field.name, statement_loopsApart e field.name⟩

/-- The lists of friends of a person, each under a name. -/
theorem ofField_loops_apart_friends :
    ∃ mapping,
      ofField {} .readonly ⟨"friends", "Map<String, List<Person?>>", true⟩ = .ok mapping ∧
      mapping.forward = (mirrorExpr .readonly
        (.map (.primitive .string) (.list (.optional (.reference "Person")))) "friends").render ∧
      mapping.backward = (statement
        (.map (.primitive .string) (.list (.optional (.reference "Person")))) "friends").render ∧
      LoopsApart (.member (.name persistedObject) "friends")
        [⟨[], ["key", "value"], .member (.name persistedObject) "friends"⟩,
          ⟨[["key", "value"]], ["item_1"], .name "value"⟩]
        ["immutabledict", "tuple", "ReadonlyPerson"] ∧
      LoopsApart (.member (.name "self") "friends")
        [⟨[], ["key", "value"], .member (.name "self") "friends"⟩,
          ⟨[["key", "value"]], ["item_1"], .name "value"⟩]
        [] := by
  obtain ⟨mapping, hmapping, hforward, hbackward, -, -, hapart, hapart'⟩ :=
    @ofField_loops_apart {} .readonly ⟨"friends", "Map<String, List<Person?>>", true⟩
      (.map (.primitive .string) (.list (.optional (.reference "Person")))) (by decide)
      (by decide +kernel) rfl
  refine ⟨mapping, hmapping, hforward, hbackward, ?_, ?_⟩
  · convert hapart using 1
    · decide +kernel
    · decide +kernel
  · convert hapart' using 1
    · decide +kernel
    · decide +kernel

end FieldMapping

end RecordMirror
