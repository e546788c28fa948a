import RecordMirror.Proofs.Code.Containers
import RecordMirror.Proofs.Code.NameForm
import RecordMirror.Proofs.Conversion.Evaluate
/-!
What the names in a generated module stand for.  A name in the body of a class is looked up in the
form that it has there: among the variables of the method it is in, then among the names that the
module binds, the last one first, and then among the built-in ones.
-/

namespace RecordMirror

namespace Code

/-- What a name stands for. -/
inductive Binding
  | imported (source name : String)
  /-- What every module has under that name, whatever is defined in it. -/
  | attribute (source name : String)
  | mirror (record : String) (mode : Mode)
  | builtin (name : String)
  /-- The name of the module itself. -/
  | moduleName
  | localVariable (name : String)
  /-- A constant of the language. -/
  | constant (name : String)
  /-- Nothing: looking it up fails. -/
  | unbound (name : String)
deriving DecidableEq, Repr

/-- The built-in names that generated code calls. -/
def calledBuiltins : List String :=
  ["tuple", "list", "set", "frozenset", "dict", "classmethod"]

/-- The name under which a module has the built-in names.  A module that binds it has no others. -/
def builtinsName : String := "__builtins__"

/-- The name under which a module has its own name, where classes look it up. -/
def ownName : String := "__name__"

/-- The name of a constant, which can be given to nothing else. -/
def debugName : String := "__debug__"

/-- The name under which an object has its class, and a method the one that it is in. -/
def classAttribute : String := "__class__"

/-- The names of what every module has, whatever is defined in it: its class, and all that is
defined. -/
def moduleAttributes : List String := [classAttribute, "__dict__"]

/-- The names that have a meaning of their own in a module. -/
def specialNames : List String := builtinsName :: ownName :: debugName :: moduleAttributes

/-- What an imported name stands for. -/
def Import.binding (N : NameForm) (i : Import) (name : String) : Binding :=
  if N.form name ∈ moduleAttributes then .attribute i.source name else .imported i.source name

namespace Module

/-- The names that a module binds: what it imports, and its classes. -/
def boundNames (m : Module) : List String :=
  m.imports.flatten.flatMap Import.names ++ m.classes.map MirrorClass.name

/-- The names that a module binds and what they stand for, in order. -/
def bindings (N : NameForm) (m : Module) : List (String × Binding) :=
  (m.imports.flatten.flatMap fun i => i.names.map fun name => (name, i.binding N name)) ++
    m.classes.map fun c => (c.name, .mirror c.record c.mode)

/-- Whether a name has the meaning of a built-in one where nothing else is bound to it. -/
def HasBuiltin (N : NameForm) (m : Module) (form : String) : Prop :=
  form ∈ calledBuiltins ∧ builtinsName ∉ m.boundNames.map N.form

instance (N : NameForm) (m : Module) (form : String) : Decidable (m.HasBuiltin N form) :=
  inferInstanceAs (Decidable (_ ∧ _))

/-- What a name stands for that is neither local nor bound.  Of the built-in names only those that
are called count. -/
def unboundMeaning (N : NameForm) (m : Module) (form : String) : Binding :=
  if form = ownName then .moduleName
  else if m.HasBuiltin N form then .builtin form
  else .unbound form

/-- What a name stands for in the body of a class where some variables are local. -/
def resolve (N : NameForm) (m : Module) (owner : String) (locals : List String)
    (name : String) : Binding :=
  let form := N.inClass owner name
  if form = debugName then .constant form
  else if form ∈ locals.map N.form then .localVariable form
  else match (m.bindings N).reverse.find? fun b => N.form b.1 == form with
    | some b => b.2
    | none => m.unboundMeaning N form

end Module

/-! ### Looking names up -/

theorem find?_of_nodup {α β : Type} [BEq β] [LawfulBEq β] {f : α → β} {items : List α}
    (h : (items.map f).Nodup) {a : α} (ha : a ∈ items) :
    items.find? (fun b => f b == f a) = some a := by
  induction items with
  | nil => cases ha
  | cons head rest ih =>
      rw [List.map_cons, List.nodup_cons] at h
      rcases List.mem_cons.1 ha with rfl | ha
      · exact List.find?_cons_of_pos (beq_self_eq_true _)
      · have hne : ¬ (f head == f a) = true := by
          intro heq
          exact h.1 (beq_iff_eq.1 heq ▸ List.mem_map_of_mem ha)
        rw [List.find?_cons, Bool.eq_false_iff.2 hne]
        exact ih h.2 ha

variable {N : NameForm} {m : Module} {owner name : String} {locals : List String}

namespace Module

theorem bindings_map_fst (N : NameForm) (m : Module) :
    (m.bindings N).map Prod.fst = m.boundNames := by
  simp [bindings, boundNames, List.map_flatMap, Function.comp_def]

theorem mem_bindings_iff {b : String × Binding} :
    b ∈ m.bindings N ↔
      (∃ i ∈ m.imports.flatten, ∃ name ∈ i.names, (name, i.binding N name) = b) ∨
        ∃ c ∈ m.classes, (c.name, .mirror c.record c.mode) = b := by
  simp only [bindings, List.mem_append, List.mem_flatMap, List.mem_map]

theorem imported_mem_bindings {i : Import} (hi : i ∈ m.imports.flatten) (hname : name ∈ i.names)
    (hattribute : N.form name ∉ moduleAttributes) :
    (name, .imported i.source name) ∈ m.bindings N :=
  mem_bindings_iff.2 (Or.inl ⟨i, hi, name, hname, by rw [Import.binding, if_neg hattribute]⟩)

/-- A name that is bound to what is imported is the imported one. -/
theorem eq_of_mem_bindings {source other : String}
    (h : (name, .imported source other) ∈ m.bindings N) :
    name = other ∧ N.form other ∉ moduleAttributes := by
  rcases mem_bindings_iff.1 h with ⟨i, -, x, -, hx⟩ | ⟨c, -, hc⟩
  · obtain ⟨rfl, hbinding⟩ := Prod.mk.inj hx
    rw [Import.binding] at hbinding
    split at hbinding
    · cases hbinding
    · rename_i hattribute
      cases hbinding
      exact ⟨rfl, hattribute⟩
  · cases hc

/-- What a name is bound to is imported, is an attribute of a module, or is a class. -/
theorem ne_of_mem_bindings {b : String × Binding} (h : b ∈ m.bindings N) :
    b.2 ≠ .moduleName ∧ ∀ form, b.2 ≠ .builtin form := by
  rcases mem_bindings_iff.1 h with ⟨i, -, x, -, rfl⟩ | ⟨c, -, rfl⟩
  · simp only [Import.binding]
    split <;> exact ⟨nofun, fun _ => nofun⟩
  · exact ⟨nofun, fun _ => nofun⟩

theorem find?_bindings_eq_none {form : String} :
    (m.bindings N).reverse.find? (fun b => N.form b.1 == form) = none ↔
      form ∉ m.boundNames.map N.form := by
  rw [List.find?_eq_none, ← bindings_map_fst N, List.map_map, List.mem_map]
  simp only [List.mem_reverse, beq_iff_eq, not_exists, not_and, Function.comp_apply]

theorem resolve_of_not_private (hprivate : isPrivate (N.form name) = false)
    (hdebug : N.form name ≠ debugName) (hlocal : N.form name ∉ locals.map N.form) :
    m.resolve N owner locals name =
      match (m.bindings N).reverse.find? fun b => N.form b.1 == N.form name with
      | some b => b.2
      | none => m.unboundMeaning N (N.form name) := by
  simp only [resolve, N.inClass_of_not_private hprivate, if_neg hdebug, if_neg hlocal]

/-- If names are bound once, each that is not private stands for what it is bound to. -/
theorem resolve_of_mem (hdistinct : (m.boundNames.map N.form).Nodup)
    (hprivate : isPrivate (N.form name) = false) (hdebug : N.form name ≠ debugName)
    (hlocal : N.form name ∉ locals.map N.form) {binding : Binding}
    (hbinding : (name, binding) ∈ m.bindings N) : m.resolve N owner locals name = binding := by
  have hnodup : ((m.bindings N).reverse.map fun b => N.form b.1).Nodup := by
    rw [List.map_reverse, List.nodup_reverse]
    rwa [← bindings_map_fst N, List.map_map] at hdistinct
  have hfind := find?_of_nodup hnodup (List.mem_reverse.2 hbinding)
  rw [resolve_of_not_private hprivate hdebug hlocal, hfind]

/-- A name that is not bound has the meaning that it has by itself. -/
theorem resolve_of_not_bound (hprivate : isPrivate (N.form name) = false)
    (hdebug : N.form name ≠ debugName) (hlocal : N.form name ∉ locals.map N.form)
    (hbound : N.form name ∉ m.boundNames.map N.form) :
    m.resolve N owner locals name = m.unboundMeaning N (N.form name) := by
  rw [resolve_of_not_private hprivate hdebug hlocal, find?_bindings_eq_none.2 hbound]

/-- A name is a constant, or local, or has the form of a name that is bound, or has the meaning that
it has by itself. -/
theorem resolve_cases (N : NameForm) (m : Module) (owner : String) (locals : List String)
    (name : String) :
    m.resolve N owner locals name = .constant (N.inClass owner name) ∨
      m.resolve N owner locals name = .localVariable (N.inClass owner name) ∨
      (N.inClass owner name ≠ debugName ∧ N.inClass owner name ∉ locals.map N.form ∧
        ∃ b ∈ m.bindings N, N.form b.1 = N.inClass owner name ∧
          m.resolve N owner locals name = b.2) ∨
      (N.inClass owner name ∉ m.boundNames.map N.form ∧
        m.resolve N owner locals name = m.unboundMeaning N (N.inClass owner name)) := by
  simp only [resolve]
  split
  · exact Or.inl rfl
  · rename_i hdebug
    split
    · exact Or.inr (Or.inl rfl)
    · rename_i hlocal
      refine Or.inr (Or.inr ?_)
      split
      · rename_i b hfind
        have hform := List.find?_some hfind
        have hmem : b ∈ m.bindings N := List.mem_reverse.1 (List.mem_of_find?_eq_some hfind)
        exact Or.inl ⟨hdebug, hlocal, b, hmem, beq_iff_eq.1 hform, rfl⟩
      · rename_i hfind
        exact Or.inr ⟨find?_bindings_eq_none.1 hfind, rfl⟩

/-- A name that stands for an imported one has its form, is neither a constant nor local, and is not
the name of an attribute that every module has. -/
theorem form_of_resolve_imported {source other : String}
    (h : m.resolve N owner locals name = .imported source other) :
    N.form other = N.inClass owner name ∧ N.inClass owner name ≠ debugName ∧
      N.inClass owner name ∉ locals.map N.form ∧ N.form other ∉ moduleAttributes := by
  rcases resolve_cases N m owner locals name with
    hresolve | hresolve | ⟨hdebug, hlocal, b, hb, hform, hresolve⟩ | ⟨-, hresolve⟩
  · cases h.symm.trans hresolve
  · cases h.symm.trans hresolve
  · have hmem : (b.1, .imported source other) ∈ m.bindings N := by
      rw [← hresolve.symm.trans h]
      exact hb
    obtain ⟨heq, hattribute⟩ := eq_of_mem_bindings hmem
    exact ⟨heq ▸ hform, hdebug, hlocal, hattribute⟩
  · have hmeaning := hresolve.symm.trans h
    unfold unboundMeaning at hmeaning
    split at hmeaning
    · cases hmeaning
    · split at hmeaning <;> cases hmeaning

/-- A name that stands for a built-in one, or for the name of the module, has this meaning by
itself. -/
theorem not_bound_of_resolve {binding : Binding} (h : m.resolve N owner locals name = binding)
    (hbinding : binding = .moduleName ∨ ∃ form, binding = .builtin form) :
    N.inClass owner name ∉ m.boundNames.map N.form ∧
      m.unboundMeaning N (N.inClass owner name) = binding := by
  have hlocal : (∀ form, binding ≠ .constant form) ∧ ∀ form, binding ≠ .localVariable form := by
    rcases hbinding with rfl | ⟨form, rfl⟩
    · exact ⟨fun _ => nofun, fun _ => nofun⟩
    · exact ⟨fun _ => nofun, fun _ => nofun⟩
  rcases resolve_cases N m owner locals name with
    hresolve | hresolve | ⟨-, -, b, hb, -, hresolve⟩ | ⟨hbound, hresolve⟩
  · exact absurd (h.symm.trans hresolve) (hlocal.1 _)
  · exact absurd (h.symm.trans hresolve) (hlocal.2 _)
  · obtain ⟨hmodule, hbuiltin⟩ := ne_of_mem_bindings hb
    rw [← hresolve.symm.trans h] at hbinding
    rcases hbinding with hnone | ⟨form, hnone⟩
    · exact absurd hnone hmodule
    · exact absurd hnone (hbuiltin form)
  · exact ⟨hbound, hresolve.symm.trans h⟩

/-- A name stands for a built-in one only where the module has the built-in names. -/
theorem hasBuiltin_of_resolve {form : String}
    (h : m.resolve N owner locals name = .builtin form) : m.HasBuiltin N form := by
  obtain ⟨-, hmeaning⟩ := not_bound_of_resolve h (Or.inr ⟨form, rfl⟩)
  unfold unboundMeaning at hmeaning
  split at hmeaning
  · cases hmeaning
  · split at hmeaning
    · rename_i hbuiltin
      cases hmeaning
      exact hbuiltin
    · cases hmeaning

end Module

/-! ### Variables -/

/-- The variables of the method that builds a record. -/
def builderVariables : List String :=
  ["self", persistedObject]

/-- The names that are local in the method that builds a record: its class, and its variables. -/
def builderScope : List String :=
  classAttribute :: builderVariables

theorem map_form_builderScope (N : NameForm) : builderScope.map N.form = builderScope := by
  rw [List.map_congr_left fun name hname => N.of_mem_ascii hname (by decide), List.map_id']

/-- A name that is local in a method or in a loop in it. -/
def IsVariable (name : String) : Prop :=
  name ∈ classAttribute :: Conversion.methodVariables ∨
    ∃ stem ∈ Conversion.loopStems, ∃ depth, Conversion.loopVariable stem depth = name

theorem IsVariable.form_eq (N : NameForm) (h : IsVariable name) : N.form name = name := by
  rcases h with hmethod | ⟨stem, hstem, depth, rfl⟩
  · exact N.of_mem_ascii hmethod (by decide)
  · obtain ⟨rest, hrest, hparts⟩ := Conversion.loopVariable_eq_append stem depth
    have hascii : ∀ stem ∈ Conversion.loopStems, isAscii stem = true := by decide
    apply N.of_ascii
    rw [isAscii, hrest, List.all_append, Bool.and_eq_true]
    refine ⟨hascii stem hstem, List.all_eq_true.2 ?_⟩
    intro c hc
    rcases hparts c hc with rfl | hdigit
    · decide
    · simp only [Char.isDigit, Bool.and_eq_true, decide_eq_true_eq] at hdigit
      exact decide_eq_true (Nat.lt_of_le_of_lt hdigit.2 (by decide))

/-! ### Containers -/

/-- What the name of a container is to stand for. -/
def containerBinding : Container → Binding
  | .immutabledict => .imported "immutabledict" "immutabledict"
  | container => .builtin container.name

theorem builtinContainer (container : Container) (h : container ≠ .immutabledict) :
    container.name ∈ calledBuiltins ∧ containerBinding container = .builtin container.name := by
  revert h
  cases container <;> decide

theorem containerName_form (N : NameForm) (container : Container) :
    N.form container.name = container.name := by
  apply N.of_ascii
  cases container <;> decide

theorem containerName_not_variable {container : Container}
    (hlocals : ∀ x ∈ locals, IsVariable x) : N.form container.name ∉ locals.map N.form := by
  rw [containerName_form]
  intro hmem
  obtain ⟨x, hx, hform⟩ := List.mem_map.1 hmem
  rw [(hlocals x hx).form_eq N] at hform
  rcases hlocals x hx with hmethod | ⟨stem, hstem, depth, hloop⟩
  · have hne : container.name ∉ classAttribute :: Conversion.methodVariables := by
      cases container <;> decide
    exact hne (hform ▸ hmethod)
  · have hstems : stem = "item" ∨ stem = "key" ∨ stem = "value" := by
      simpa [Conversion.loopStems] using hstem
    exact Conversion.container_name_ne_loopVariable container depth hstems
      (hform.symm.trans hloop.symm)

/-! ### Capture -/

namespace Module

/-- The names that a module binds are bound once and are no built-in ones that are called, and no
record is hidden by a variable where it is constructed. -/
structure NamesApart (N : NameForm) (m : Module) : Prop where
  distinct : (m.boundNames.map N.form).Nodup
  builtins : ∀ name ∈ calledBuiltins, name ∉ m.boundNames.map N.form
  records : ∀ c ∈ m.classes, N.form c.record ∉ builderVariables

/-- No name in a module takes the place of another, and what the module calls are the intended
objects. -/
structure CaptureFree (N : NameForm) (source : String) (m : Module) : Prop
    extends NamesApart N m where
  /-- The name of the module is its own. -/
  named : ∀ c ∈ m.classes, m.resolve N c.name [] ownName = .moduleName
  /-- The decorator of converting constructors is the built-in one. -/
  decorator : ∀ c ∈ m.classes, m.resolve N c.name [] "classmethod" = .builtin "classmethod"
  /-- The record that is constructed where a mirror is built back is the imported one. -/
  constructed : ∀ c ∈ m.classes,
    m.resolve N c.name builderScope c.record = .imported source c.record
  /-- A container that is called is the intended one, whatever loops are around the call. -/
  containers : ∀ c ∈ m.classes, ∀ field ∈ c.fields, ∀ container ∈ field.containers,
    ∀ locals : List String, (∀ x ∈ locals, IsVariable x) →
      m.resolve N c.name locals container.name = containerBinding container

namespace NamesApart

variable (h : m.NamesApart N)

include h

theorem resolve_builtin (hbuiltins : builtinsName ∉ m.boundNames.map N.form)
    (hcalled : name ∈ calledBuiltins) (hlocal : N.form name ∉ locals.map N.form) :
    m.resolve N owner locals name = .builtin name := by
  have hform : N.form name = name := N.of_mem_ascii hcalled (by decide)
  have hnames : ∀ name ∈ calledBuiltins,
      isPrivate name = false ∧ name ≠ debugName ∧ name ≠ ownName := by
    decide
  obtain ⟨hprivate, hdebug, hown⟩ := hnames name hcalled
  have hbound := h.builtins name hcalled
  have hbuiltin : m.HasBuiltin N name := ⟨hcalled, hbuiltins⟩
  rw [← hform] at hbound hprivate hdebug
  rw [resolve_of_not_bound hprivate hdebug hlocal hbound, hform, unboundMeaning, if_neg hown,
    if_pos hbuiltin]

theorem resolve_container (hbuiltins : builtinsName ∉ m.boundNames.map N.form)
    {container : Container} (hlocals : ∀ x ∈ locals, IsVariable x)
    (himport : container = .immutabledict → immutabledictImport ∈ m.imports.flatten) :
    m.resolve N owner locals container.name = containerBinding container := by
  have hlocal : N.form container.name ∉ locals.map N.form := containerName_not_variable hlocals
  by_cases hmapping : container = .immutabledict
  · subst hmapping
    have hform : N.form Container.immutabledict.name = Container.immutabledict.name :=
      containerName_form N _
    have hattribute : N.form Container.immutabledict.name ∉ moduleAttributes := by
      rw [hform]
      decide
    refine resolve_of_mem h.distinct ?_ ?_ hlocal
      (imported_mem_bindings (himport rfl) (List.mem_singleton_self _) hattribute)
    · rw [hform]
      decide
    · rw [hform]
      decide
  · obtain ⟨hcalled, hbinding⟩ := builtinContainer container hmapping
    rw [hbinding, h.resolve_builtin hbuiltins hcalled hlocal]

theorem resolve_record {c : MirrorClass} (hc : c ∈ m.classes)
    (hprivate : isPrivate (N.form c.record) = false) (hdebug : N.form c.record ≠ debugName)
    (hattribute : N.form c.record ∉ moduleAttributes) {i : Import} (hi : i ∈ m.imports.flatten)
    (hname : c.record ∈ i.names) :
    m.resolve N owner builderScope c.record = .imported i.source c.record := by
  refine resolve_of_mem h.distinct hprivate hdebug ?_ (imported_mem_bindings hi hname hattribute)
  rw [map_form_builderScope]
  apply List.not_mem_cons_of_ne_of_not_mem _ (h.records c hc)
  exact fun heq => hattribute (heq ▸ List.mem_cons_self)

end NamesApart

theorem resolve_ownName (h : ownName ∉ m.boundNames.map N.form) :
    m.resolve N owner [] ownName = .moduleName := by
  have hform : N.form ownName = ownName := N.of_ascii _ (by decide)
  have hprivate : isPrivate (N.form ownName) = false := by
    rw [hform]
    decide
  have hdebug : N.form ownName ≠ debugName := by
    rw [hform]
    decide
  rw [← hform] at h
  rw [resolve_of_not_bound hprivate hdebug List.not_mem_nil h, hform]
  rfl

end Module

end Code

end RecordMirror
