import RecordMirror.Proofs.Code.Scope
/-!
The global names that generated code refers to: those that are no variables of a method or of a loop
in it.  Annotations are not evaluated and do not count.
-/

namespace RecordMirror

namespace Code

/-- The global names in an expression where some variables are local: containers, mirror classes
whose converting constructor is called, and names that are no variables.  The variables of a loop
are local in the value of the loop, but not in what it runs over. -/
def Expr.globals : Expr → List String → List String
  | name text, locals => if text ∈ locals then [] else [text]
  | member object _, locals => object.globals locals
  | fromPersisted mirror record, locals => mirror :: record.globals locals
  | buildPersisted mirror, locals => mirror.globals locals
  | construct container source, locals => container.name :: source.globals locals
  | constructEach container value item source, locals =>
    container.name :: (value.globals (item :: locals) ++ source.globals locals)
  | displayEach _ value item source, locals =>
    value.globals (item :: locals) ++ source.globals locals
  | pairs key item value source, locals =>
    value.globals (key :: item :: locals) ++ source.globals locals
  | ifPresent value subject, locals => value.globals locals ++ subject.globals locals

/-- The global names in a statement where some variables are local. -/
def Statement.globals : Statement → List String → List String
  | assign target value, locals => target.globals locals ++ value.globals locals
  | fill target _ source, locals => target.globals locals ++ source.globals locals
  | fillEach target _ value item source, locals =>
    target.globals locals ++ (value.globals (item :: locals) ++ source.globals locals)

/-- The name that a decorator line refers to. -/
def decoratorName (line : String) : String :=
  String.ofList ((line.toList.drop 1).takeWhile isWordPart)

/-- The variables of the method that converts a record. -/
def converterVariables : List String :=
  ["cls", persistedObject]

/-- The global names in the conversions of a field. -/
def MirrorField.globals (field : MirrorField) : List String :=
  field.forward.globals converterVariables ++ field.backward.globals builderVariables

/-- The names that a class refers to in its body and that are not local: the decorator of its
converting constructor, the record it constructs, and the globals of its conversions. -/
def MirrorClass.bodyGlobals (c : MirrorClass) : List String :=
  "classmethod" :: ((Expr.name c.record).globals builderScope ++
    c.fields.flatMap MirrorField.globals)

/-- The global names that a class refers to, in the form in which they are looked up. -/
def MirrorClass.globals (N : NameForm) (c : MirrorClass) : List String :=
  (c.mode.style.decorators.map decoratorName).map N.form ++ c.bodyGlobals.map (N.inClass c.name)

theorem Expr.mem_globals_name {x y : String} {locals : List String} :
    x ∈ (Expr.name y).globals locals ↔ x = y ∧ y ∉ locals := by
  change (x ∈ if y ∈ locals then [] else [y]) ↔ _
  by_cases hlocal : y ∈ locals
  · simp [hlocal]
  · simp [hlocal]

end Code

open Code

namespace Conversion

variable {P : String → Prop} {mode : Mode} {e : TypeExpr} {source : Expr} {locals : List String}

theorem globals_local {x : String} (hx : x ∈ locals) :
    ∀ name ∈ (Expr.name x).globals locals, P name := by
  have hnone : (Expr.name x).globals locals = [] := if_pos hx
  rw [hnone]
  exact List.forall_mem_nil _

section

variable {first second value : Expr} {container : Container} {display : Display}
  {item key : String}

theorem globals_choice {c : Prop} [Decidable c] (hfirst : ∀ name ∈ first.globals locals, P name)
    (hsecond : ∀ name ∈ second.globals locals, P name) :
    ∀ name ∈ (if c then first else second).globals locals, P name := by
  by_cases hc : c
  · rwa [if_pos hc]
  · rwa [if_neg hc]

theorem globals_construct (hcalled : P container.name)
    (hsource : ∀ name ∈ source.globals locals, P name) :
    ∀ name ∈ (Expr.construct container source).globals locals, P name :=
  List.forall_mem_cons.2 ⟨hcalled, hsource⟩

theorem globals_constructEach (hcalled : P container.name)
    (hvalue : ∀ name ∈ value.globals (item :: locals), P name)
    (hsource : ∀ name ∈ source.globals locals, P name) :
    ∀ name ∈ (Expr.constructEach container value item source).globals locals, P name :=
  List.forall_mem_cons.2 ⟨hcalled, List.forall_mem_append.2 ⟨hvalue, hsource⟩⟩

theorem globals_displayEach (hvalue : ∀ name ∈ value.globals (item :: locals), P name)
    (hsource : ∀ name ∈ source.globals locals, P name) :
    ∀ name ∈ (Expr.displayEach display value item source).globals locals, P name :=
  List.forall_mem_append.2 ⟨hvalue, hsource⟩

theorem globals_pairs (hvalue : ∀ name ∈ value.globals (key :: item :: locals), P name)
    (hsource : ∀ name ∈ source.globals locals, P name) :
    ∀ name ∈ (Expr.pairs key item value source).globals locals, P name :=
  List.forall_mem_append.2 ⟨hvalue, hsource⟩

theorem globals_ifPresent (hvalue : ∀ name ∈ value.globals locals, P name)
    (hsource : ∀ name ∈ source.globals locals, P name) :
    ∀ name ∈ (Expr.ifPresent value source).globals locals, P name :=
  List.forall_mem_append.2 ⟨hvalue, hsource⟩

end

/-- The expression of a mirror value refers to the containers of its mode, to the mirrors of the
records in its type, and to nothing else. -/
theorem forward_globals (hmirrors : ∀ record ∈ e.references, P (mode.mirrorName record))
    (hsequence : P mode.style.sequence.name) (hset : P mode.style.set.name)
    (hmapping : e.holdsMap = true → P mode.style.mapping.name)
    (hsource : ∀ name ∈ source.globals locals, P name) (depth : Nat) :
    ∀ name ∈ (forward mode e source depth).globals locals, P name := by
  induction e generalizing source depth locals with
  | primitive type => exact hsource
  | reference record =>
      rw [forward, Expr.globals, List.forall_mem_cons]
      exact ⟨hmirrors record List.mem_cons_self, hsource⟩
  | optional inner ih =>
      rw [forward]
      apply globals_choice hsource
      exact globals_ifPresent (ih hmirrors hmapping hsource depth) hsource
  | list element ih =>
      rw [forward]
      apply globals_choice (globals_construct hsequence hsource)
      apply globals_constructEach hsequence _ hsource
      exact ih hmirrors hmapping (globals_local List.mem_cons_self) (depth + 1)
  | set element ih =>
      rw [forward]
      apply globals_choice (globals_construct hset hsource)
      apply globals_constructEach hset _ hsource
      exact ih hmirrors hmapping (globals_local List.mem_cons_self) (depth + 1)
  | map key value _ ih =>
      have hcalled : P mode.style.mapping.name := hmapping rfl
      have hvalue : loopVariable "value" depth ∈
          loopVariable "key" depth :: loopVariable "value" depth :: locals :=
        List.mem_cons_of_mem _ List.mem_cons_self
      have hitem := ih hmirrors (fun _ => hcalled) (globals_local hvalue) (depth + 1)
      have hpairs := globals_pairs hitem hsource
      simp only [forward]
      apply globals_choice (globals_construct hcalled hsource)
      apply globals_choice hpairs
      exact globals_construct hcalled hpairs

/-- The expression of a record value refers to built-in containers alone. -/
theorem backward_globals (hlist : P "list") (hset : P "set") (hdict : P "dict")
    (hsource : ∀ name ∈ source.globals locals, P name) (depth : Nat) :
    ∀ name ∈ (backward e source depth).globals locals, P name := by
  induction e generalizing source depth locals with
  | primitive type => exact hsource
  | reference record => exact hsource
  | optional inner ih =>
      rw [backward]
      apply globals_choice hsource
      exact globals_ifPresent (ih hsource depth) hsource
  | list element ih =>
      rw [backward]
      apply globals_choice (globals_construct hlist hsource)
      exact globals_displayEach (ih (globals_local List.mem_cons_self) _) hsource
  | set element ih =>
      rw [backward]
      apply globals_choice (globals_construct hset hsource)
      exact globals_displayEach (ih (globals_local List.mem_cons_self) _) hsource
  | map key value _ ih =>
      rw [backward]
      apply globals_choice (globals_construct hdict hsource)
      refine globals_pairs (ih (globals_local ?_) _) hsource
      exact List.mem_cons_of_mem _ List.mem_cons_self

theorem statement_globals (hlist : P "list") (hset : P "set") (hdict : P "dict")
    (field : String) : ∀ name ∈ (statement e field).globals builderVariables, P name := by
  have htarget : ∀ name ∈ (Expr.member (.name persistedObject) field).globals builderVariables,
      P name := globals_local (by decide)
  have hsource : ∀ name ∈ (Expr.member (.name "self") field).globals builderVariables, P name :=
    globals_local (by decide)
  have hfill : ∀ (filling : Filling) (element : TypeExpr), ∀ name ∈
      (fillItems (.member (.name persistedObject) field) filling element
        (.member (.name "self") field)).globals builderVariables, P name := by
    intro filling element
    unfold fillItems
    by_cases hcopied : element.isCopied = true
    · rw [if_pos hcopied, Statement.globals, List.forall_mem_append]
      exact ⟨htarget, hsource⟩
    · rw [if_neg hcopied, Statement.globals, List.forall_mem_append, List.forall_mem_append]
      exact ⟨htarget, backward_globals hlist hset hdict (globals_local List.mem_cons_self) 1,
        hsource⟩
  cases e with
  | list element => exact hfill .extend element
  | set element => exact hfill .update element
  | map key value =>
      simp only [statement]
      by_cases hcopied : value.isCopied = true
      · rw [if_pos hcopied, Statement.globals, List.forall_mem_append]
        exact ⟨htarget, hsource⟩
      · rw [if_neg hcopied, Statement.globals, List.forall_mem_append]
        exact ⟨htarget, backward_globals hlist hset hdict hsource 0⟩
  | primitive | reference | optional =>
      rw [statement, Statement.globals, List.forall_mem_append]
      · exact ⟨htarget, backward_globals hlist hset hdict hsource 0⟩
      all_goals simp

end Conversion

end RecordMirror
