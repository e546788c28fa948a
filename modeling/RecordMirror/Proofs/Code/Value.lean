import RecordMirror.Code.Expr
/-!
The values that generated code computes with.  Containers are known by their items; all else is
known only by what can be done with it.
-/

namespace RecordMirror.Code

/-- A value.  The items of a set are listed in the order in which it is iterated. -/
inductive Value (Object : Type)
  | absent
  | object (o : Object)
  | collection (kind : Container) (items : List (Value Object))
  | mapping (kind : Container) (entries : List (Value Object × Value Object))

/-- What can be done with the objects of a program, and what its equality says.  What raises an
exception has no outcome. -/
structure Runtime (Object : Type) where
  equal : Value Object → Value Object → Bool
  hashable : Object → Bool
  isInstance : String → Object → Bool
  /-- The attribute of an object. -/
  shown : Object → String → Option (Value Object)
  /-- The attribute that a name stands for where the code is written. -/
  attributeOf : String → String
  /-- The mirror that a class makes of a record. -/
  fromPersisted : String → Value Object → Option (Value Object)
  /-- The record that a mirror makes of itself. -/
  buildPersisted : Object → Option (Value Object)
  /-- The items of an object that can be iterated, such as a text. -/
  items : Object → Option (List (Value Object))
  /-- The pairs of an object that is a mapping. -/
  entries : Object → Option (List (Value Object × Value Object))
  /-- The order in which a set of these items is iterated. -/
  arrange : List (Value Object) → List (Value Object)

namespace Runtime

variable {Object : Type} (rt : Runtime Object)

mutual

/-- Whether a value can be an item of a set or a key of a mapping. -/
def isHashable : Value Object → Bool
  | .absent => true
  | .object o => rt.hashable o
  | .collection .tuple items => areHashable items
  | .collection .frozenset _ => true
  | .mapping .immutabledict entries => areHashableEntries entries
  | _ => false

/-- Whether all items of a list can be items of a set. -/
def areHashable : List (Value Object) → Bool
  | [] => true
  | x :: rest => isHashable x && areHashable rest

/-- Whether all keys and values of a list can be items of a set. -/
def areHashableEntries : List (Value Object × Value Object) → Bool
  | [] => true
  | (key, value) :: rest => isHashable key && isHashable value && areHashableEntries rest

end

/-- Adds an item to those of a set.  An item that is equal to one of them is left out. -/
def insertItem (items : List (Value Object)) (x : Value Object) : List (Value Object) :=
  if items.any (rt.equal x) then items else items ++ [x]

/-- Whether two values can stand for each other in a set: they are the same, or equal. -/
def Alike (x y : Value Object) : Prop :=
  x = y ∨ rt.equal x y = true

/-- The set of that kind with the items of two lists. -/
def makeSet (kind : Container) (old new : List (Value Object)) : Option (Value Object) :=
  if (old ++ new).all rt.isHashable then
    some (.collection kind (rt.arrange (new.foldl rt.insertItem old)))
  else none

/-- Adds a pair to those of a mapping.  The value of an equal key is replaced. -/
def insertEntry (entries : List (Value Object × Value Object))
    (entry : Value Object × Value Object) : List (Value Object × Value Object) :=
  if entries.any fun e => rt.equal e.1 entry.1 then
    entries.map fun e => if rt.equal e.1 entry.1 then (e.1, entry.2) else e
  else entries ++ [entry]

/-- The mapping of that kind with the pairs of two lists. -/
def makeMapping (kind : Container) (old new : List (Value Object × Value Object)) :
    Option (Value Object) :=
  if (old ++ new).all fun e => rt.isHashable e.1 then
    some (.mapping kind (new.foldl rt.insertEntry old))
  else none

/-- A pair, as mappings are made from. -/
def pairOf : Value Object → Option (Value Object × Value Object)
  | .collection _ [key, value] => some (key, value)
  | _ => none

/-- The items of a value in the order in which it is iterated.  A mapping has its keys. -/
def itemsOf : Value Object → Option (List (Value Object))
  | .absent => none
  | .object o => rt.items o
  | .collection _ items => some items
  | .mapping _ entries => some (entries.map Prod.fst)

/-- The pairs of a mapping. -/
def entriesOf : Value Object → Option (List (Value Object × Value Object))
  | .object o => rt.entries o
  | .mapping _ entries => some entries
  | _ => none

/-- The container of that kind that is made from some items. -/
def makeFromItems (kind : Container) (items : List (Value Object)) : Option (Value Object) :=
  match kind with
  | .tuple | .list => some (.collection kind items)
  | .frozenset | .set => rt.makeSet kind [] items
  | .immutabledict | .dict => (items.mapM pairOf).bind (rt.makeMapping kind [])

/-- The container of that kind that is made from a value. -/
def make (kind : Container) (v : Value Object) : Option (Value Object) :=
  match kind with
  | .immutabledict | .dict =>
    match rt.entriesOf v with
    | some entries => rt.makeMapping kind [] entries
    | none => (rt.itemsOf v).bind (rt.makeFromItems kind)
  | _ => (rt.itemsOf v).bind (rt.makeFromItems kind)

/-- The values that an annotation admits. -/
def Fits : TypeHint → Value Object → Prop
  | .name text, v => ∃ o, v = .object o ∧ rt.isInstance text o = true
  | .optional inner, v => v = .absent ∨ Fits inner v
  | .sequence kind element, v => ∃ items, v = .collection kind items ∧ ∀ x ∈ items, Fits element x
  | .set kind element, v =>
    ∃ items, v = .collection kind items ∧ ∀ x ∈ items, Fits element x ∧ rt.isHashable x = true
  | .mapping kind key value, v =>
    ∃ entries, v = .mapping kind entries ∧
      (∀ e ∈ entries, Fits key e.1 ∧ rt.isHashable e.1 = true ∧ Fits value e.2) ∧
      entries.Pairwise fun e e' => rt.equal e.1 e'.1 = false

section

variable {rt}

theorem foldl_insertEntry {old new : List (Value Object × Value Object)}
    (h : (old ++ new).Pairwise fun e e' => rt.equal e.1 e'.1 = false) :
    new.foldl rt.insertEntry old = old ++ new := by
  induction new generalizing old with
  | nil => simp
  | cons entry rest ih =>
      have hfresh : rt.insertEntry old entry = old ++ [entry] := by
        have hnone : (old.any fun e => rt.equal e.1 entry.1) = false := by
          rw [List.any_eq_false]
          intro e he
          rw [(List.pairwise_append.1 h).2.2 e he entry List.mem_cons_self]
          decide
        simp [insertEntry, hnone]
      rw [List.foldl_cons, hfresh, ih (by simpa using h), List.append_assoc, List.singleton_append]

/-- Entries with different keys are kept as they are. -/
theorem makeMapping_of_pairwise {kind : Container} {entries : List (Value Object × Value Object)}
    (hkeys : ∀ e ∈ entries, rt.isHashable e.1 = true)
    (hpairwise : entries.Pairwise fun e e' => rt.equal e.1 e'.1 = false) :
    rt.makeMapping kind [] entries = some (.mapping kind entries) := by
  have hall : ([] ++ entries).all (fun e => rt.isHashable e.1) = true := by
    simpa using fun a b hab => hkeys (a, b) hab
  rw [makeMapping, if_pos hall, foldl_insertEntry (by simpa using hpairwise), List.nil_append]

theorem mem_foldl_insertItem {old new : List (Value Object)} {x : Value Object}
    (hx : x ∈ new.foldl rt.insertItem old) : x ∈ old ++ new := by
  induction new generalizing old with
  | nil => simpa using hx
  | cons y rest ih =>
      have hmem := ih hx
      unfold insertItem at hmem
      split at hmem
      · rcases List.mem_append.1 hmem with hold | hrest
        · exact List.mem_append_left _ hold
        · exact List.mem_append_right _ (List.mem_cons_of_mem _ hrest)
      · simpa using hmem

theorem mem_foldl_insertItem_of_mem {old : List (Value Object)} {x : Value Object} (hx : x ∈ old)
    (new : List (Value Object)) : x ∈ new.foldl rt.insertItem old := by
  induction new generalizing old with
  | nil => exact hx
  | cons y rest ih =>
      apply ih
      unfold insertItem
      split
      · exact hx
      · exact List.mem_append_left _ hx

/-- Every item that is added is among the items afterwards, or is equal to one of them. -/
theorem foldl_insertItem_covers {new : List (Value Object)} (old : List (Value Object))
    {x : Value Object} (hx : x ∈ new) : ∃ kept ∈ new.foldl rt.insertItem old, rt.Alike x kept := by
  induction new generalizing old with
  | nil => simp at hx
  | cons y rest ih =>
      rcases List.mem_cons.1 hx with rfl | hrest
      · by_cases hany : old.any (rt.equal x) = true
        · obtain ⟨kept, hkept, hequal⟩ := List.any_eq_true.1 hany
          refine ⟨kept, ?_, Or.inr hequal⟩
          rw [List.foldl_cons, insertItem, if_pos hany]
          exact mem_foldl_insertItem_of_mem hkept rest
        · refine ⟨x, ?_, Or.inl rfl⟩
          rw [List.foldl_cons, insertItem, if_neg hany]
          exact mem_foldl_insertItem_of_mem (List.mem_append_right _ List.mem_cons_self) rest
      · exact ih (rt.insertItem old y) hrest

end

end Runtime

end RecordMirror.Code
