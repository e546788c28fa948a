import RecordMirror.Proofs.Code.Names
/-!
The containers that generated code calls.  Mirrors that cannot be assigned hold their mappings in a
container that is imported, and the import is there wherever it is called.
-/

namespace RecordMirror

namespace Code

/-- The containers that are called in an expression. -/
def Expr.containers : Expr → List Container
  | name _ => []
  | member object _ => object.containers
  | fromPersisted _ record => record.containers
  | buildPersisted mirror => mirror.containers
  | construct container source => container :: source.containers
  | constructEach container value _ source => container :: (value.containers ++ source.containers)
  | displayEach _ value _ source => value.containers ++ source.containers
  | pairs _ _ value source => value.containers ++ source.containers
  | ifPresent value subject => value.containers ++ subject.containers

/-- The containers that are called in a statement. -/
def Statement.containers : Statement → List Container
  | assign target value => target.containers ++ value.containers
  | fill target _ source => target.containers ++ source.containers
  | fillEach target _ value _ source =>
    target.containers ++ (value.containers ++ source.containers)

/-- The containers that are called in the conversions of a field. -/
def MirrorField.containers (field : MirrorField) : List Container :=
  field.forward.containers ++ field.backward.containers

/-- The import that provides immutable mappings. -/
def immutabledictImport : Import := ⟨"immutabledict", ["immutabledict"]⟩

end Code

open Code

/-- Whether a map is part of a type. -/
def TypeExpr.holdsMap : TypeExpr → Bool
  | primitive _ => false
  | reference _ => false
  | optional inner => inner.holdsMap
  | list element => element.holdsMap
  | set element => element.holdsMap
  | map _ _ => true

namespace Conversion

variable {P : Container → Prop} {mode : Mode} {e : TypeExpr} {source : Expr}

theorem forward_containers (hsequence : P mode.style.sequence) (hset : P mode.style.set)
    (hmapping : e.holdsMap = true → P mode.style.mapping)
    (hsource : ∀ container ∈ source.containers, P container) (depth : Nat) :
    ∀ container ∈ (forward mode e source depth).containers, P container := by
  have hnone : ∀ x, ∀ container ∈ (Expr.name x).containers, P container :=
    fun _ _ hmem => nomatch hmem
  induction e generalizing source depth with
  | primitive type => exact hsource
  | reference record => exact hsource
  | optional inner ih =>
      rw [forward]
      split
      · exact hsource
      · rw [Expr.containers, List.forall_mem_append]
        exact ⟨ih hmapping hsource depth, hsource⟩
  | list element ih =>
      rw [forward]
      split
      · rw [Expr.containers, List.forall_mem_cons]
        exact ⟨hsequence, hsource⟩
      · rw [Expr.containers, List.forall_mem_cons, List.forall_mem_append]
        exact ⟨hsequence, ih hmapping (hnone _) (depth + 1), hsource⟩
  | set element ih =>
      rw [forward]
      split
      · rw [Expr.containers, List.forall_mem_cons]
        exact ⟨hset, hsource⟩
      · rw [Expr.containers, List.forall_mem_cons, List.forall_mem_append]
        exact ⟨hset, ih hmapping (hnone _) (depth + 1), hsource⟩
  | map key value _ ih =>
      have hcalled : P mode.style.mapping := hmapping rfl
      have hpairs : ∀ container ∈ (Expr.pairs (loopVariable "key" depth)
          (loopVariable "value" depth)
          (forward mode value (.name (loopVariable "value" depth)) (depth + 1))
          source).containers, P container := by
        rw [Expr.containers, List.forall_mem_append]
        exact ⟨ih (fun _ => hcalled) (hnone _) (depth + 1), hsource⟩
      simp only [forward]
      split
      · rw [Expr.containers, List.forall_mem_cons]
        exact ⟨hcalled, hsource⟩
      · split
        · exact hpairs
        · rw [Expr.containers, List.forall_mem_cons]
          exact ⟨hcalled, hpairs⟩

theorem backward_containers (hlist : P .list) (hset : P .set) (hdict : P .dict)
    (hsource : ∀ container ∈ source.containers, P container) (depth : Nat) :
    ∀ container ∈ (backward e source depth).containers, P container := by
  have hnone : ∀ x, ∀ container ∈ (Expr.name x).containers, P container :=
    fun _ _ hmem => nomatch hmem
  induction e generalizing source depth with
  | primitive type => exact hsource
  | reference record => exact hsource
  | optional inner ih =>
      rw [backward]
      split
      · exact hsource
      · rw [Expr.containers, List.forall_mem_append]
        exact ⟨ih hsource depth, hsource⟩
  | list element ih =>
      rw [backward]
      split
      · rw [Expr.containers, List.forall_mem_cons]
        exact ⟨hlist, hsource⟩
      · rw [Expr.containers, List.forall_mem_append]
        exact ⟨ih (hnone _) (depth + 1), hsource⟩
  | set element ih =>
      rw [backward]
      split
      · rw [Expr.containers, List.forall_mem_cons]
        exact ⟨hset, hsource⟩
      · rw [Expr.containers, List.forall_mem_append]
        exact ⟨ih (hnone _) (depth + 1), hsource⟩
  | map key value _ ih =>
      rw [backward]
      split
      · rw [Expr.containers, List.forall_mem_cons]
        exact ⟨hdict, hsource⟩
      · rw [Expr.containers, List.forall_mem_append]
        exact ⟨ih (hnone _) (depth + 1), hsource⟩

theorem statement_containers (hlist : P .list) (hset : P .set) (hdict : P .dict) (field : String) :
    ∀ container ∈ (statement e field).containers, P container := by
  have hnone : ∀ object, ∀ container ∈ (Expr.member (.name object) field).containers,
      P container := fun _ _ hmem => nomatch hmem
  have hname : ∀ x, ∀ container ∈ (Expr.name x).containers, P container :=
    fun _ _ hmem => nomatch hmem
  have hfill : ∀ (filling : Filling) (element : TypeExpr), ∀ container ∈
      (fillItems (.member (.name persistedObject) field) filling element
        (.member (.name "self") field)).containers, P container := by
    intro filling element
    unfold fillItems
    split
    · rw [Statement.containers, List.forall_mem_append]
      exact ⟨hnone _, hnone _⟩
    · rw [Statement.containers, List.forall_mem_append, List.forall_mem_append]
      exact ⟨hnone _, backward_containers hlist hset hdict (hname _) 1, hnone _⟩
  cases e with
  | list element => exact hfill .extend element
  | set element => exact hfill .update element
  | map key value =>
      simp only [statement]
      split
      · rw [Statement.containers, List.forall_mem_append]
        exact ⟨hnone _, hnone _⟩
      · rw [Statement.containers, List.forall_mem_append]
        exact ⟨hnone _, backward_containers hlist hset hdict (hnone _) 0⟩
  | primitive | reference | optional =>
      rw [statement, Statement.containers, List.forall_mem_append]
      · exact ⟨hnone _, backward_containers hlist hset hdict (hnone _) 0⟩
      all_goals simp

/-- The import of the mapping type is needed wherever a map is part of a type. -/
theorem mem_importLines_of_holdsMap {line : String} (hline : line ∈ mode.style.mappingImport)
    (h : e.holdsMap = true) : line ∈ importLines mode e := by
  induction e with
  | primitive type => cases h
  | reference record => cases h
  | optional inner ih => exact ih h
  | list element ih => exact ih h
  | set element ih => exact ih h
  | map key value _ _ => exact List.mem_append_left _ (Option.mem_toList.2 hline)

theorem ofType_containers {field : String} {container : Container}
    (h : container ∈ (MirrorField.ofType mode field e).containers)
    (himmutable : container = .immutabledict) : mode = .readonly ∧ e.holdsMap = true := by
  let P : Container → Prop := fun container =>
    container = .immutabledict → mode = .readonly ∧ e.holdsMap = true
  have hnone : ∀ container ∈ (Expr.member (.name persistedObject) field).containers,
      P container := fun _ hmem => nomatch hmem
  have hmapping : e.holdsMap = true → P mode.style.mapping := by
    intro hmap heq
    cases mode with
    | readonly => exact ⟨rfl, hmap⟩
    | observable => cases heq
  rcases List.mem_append.1 h with h | h
  · have hsequence : P mode.style.sequence := by cases mode <;> exact fun heq => nomatch heq
    have hset : P mode.style.set := by cases mode <;> exact fun heq => nomatch heq
    exact forward_containers hsequence hset hmapping hnone 0 container h himmutable
  · have hlist : P .list := fun heq => nomatch heq
    have hset : P .set := fun heq => nomatch heq
    have hdict : P .dict := fun heq => nomatch heq
    exact statement_containers hlist hset hdict field container h himmutable

end Conversion

/-- Where immutable mappings are called in the module of some plans, they are imported. -/
theorem Code.Module.immutabledict_imported {persistentModule : Option String} {plans : List Plan}
    (h : ∀ plan ∈ plans, plan.Typed) {c : MirrorClass}
    (hc : c ∈ (ofPlans persistentModule plans).classes) {field : MirrorField}
    (hfield : field ∈ c.fields) (hcalled : Container.immutabledict ∈ field.containers) :
    immutabledictImport ∈ (ofPlans persistentModule plans).imports.flatten := by
  obtain ⟨plan, hplan, rfl⟩ := List.mem_map.1 hc
  obtain ⟨mapping, hmapping, type, hparse, rfl⟩ := Plan.mem_tree_fields.1 hfield
  obtain ⟨hmode, hmap⟩ := Conversion.ofType_containers hcalled rfl
  obtain ⟨type', hparse', htyped⟩ := h plan hplan mapping hmapping
  obtain rfl : type = type' := Except.ok.inj (hparse.symm.trans hparse')
  have hline : immutabledictImport.render ∈ mapping.imports := by
    rw [← htyped]
    refine mem_sortedDistinct.2 (Conversion.mem_importLines_of_holdsMap ?_ hmap)
    rw [hmode]
    decide
  have hneeded : immutabledictImport ∈ needed plans := by
    refine List.mem_filter.2 ⟨by decide, List.contains_iff_mem.2 (List.mem_cons_of_mem _ ?_)⟩
    refine List.mem_flatMap.2 ⟨plan, hplan, mem_sortedDistinct.2 ?_⟩
    exact List.mem_flatMap.2 ⟨mapping, hmapping, hline⟩
  rw [imports_flatten]
  exact List.mem_append_left _ (mem_fixedImports.2 (.inr (.inl hneeded)))

end RecordMirror
