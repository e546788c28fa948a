import RecordMirror.Mapping
import RecordMirror.Proofs.Code.LegalName
import RecordMirror.Proofs.Conversion.RoundTrip
import RecordMirror.Proofs.Conversion.Storing
/-!
What field mappings convert.  Their texts are those of trees, which can be read as code exactly if
the names in them can be.  In the methods of a mirror the trees do what the declared type of the
field asks for, exactly if the name of the field is not private: there a private name stands for
another one.
-/

namespace RecordMirror

open Code Conversion

variable {Object : Type} {rt : Runtime Object} {N : NameForm} {mode : Mode} {e : TypeExpr}
  {owner field record : String} {locals : List (String × Value Object)}

/-- The code stands in the body of a class. -/
def Code.Runtime.InClass (rt : Runtime Object) (N : NameForm) (owner : String) : Prop :=
  ∀ name, rt.attributeOf name = N.inClass owner name

/-- The local variables of a method of a mirror.  One of them is an object whose attribute has a
value. -/
structure MethodLocals (rt : Runtime Object) (locals : List (String × Value Object))
    (holder attributeName : String) (v : Value Object) : Prop where
  names : ∀ x ∈ locals, x.1 ∈ methodVariables
  holds : ∃ o, locals.lookup holder = some (.object o) ∧ rt.shown o attributeName = some v

theorem MethodLocals.eval_member {holder : String} {v : Value Object}
    (h : MethodLocals rt locals holder (rt.attributeOf field) v) :
    rt.eval (.member (.name holder) field) locals = some v := by
  obtain ⟨o, hlookup, hshown⟩ := h.holds
  change ((locals.lookup holder).bind _) = _
  rw [hlookup]
  exact hshown

/-- What an expression does for a field that has value `v` in a record. -/
structure ConvertsValue (rt : Runtime Object) (mode : Mode) (e : TypeExpr) (hint : TypeHint)
    (locals : List (String × Value Object)) (v : Value Object) (value : Expr) : Prop where
  /-- It has the mirror value. -/
  eval : rt.eval value locals = mirrorValue rt mode e v
  /-- The mirror value is what the annotation says, down to the kind of each container. -/
  fits : Lawful rt mode → ∀ m, mirrorValue rt mode e v = some m → rt.Fits hint m
  /-- There is a mirror value if the records in `v` have mirrors. -/
  succeeds : Lawful rt mode →
    (∀ p ∈ referencesIn e v, ∃ m, rt.fromPersisted (mode.mirrorName p.1) p.2 = some m) →
    ∃ m, mirrorValue rt mode e v = some m

/-- What a statement does for a field that has value `m` in a mirror, given the attribute that a
record has for the field. -/
structure StoresValue (rt : Runtime Object) (mode : Mode) (e : TypeExpr) (attributeName : String)
    (locals : List (String × Value Object)) (record : Attributes Object) (m : Value Object)
    (store : Statement) : Prop where
  /-- It stores the restored value and changes nothing else. -/
  exec : rt.exec locals record store = (restoreValue rt e m).map (record.set attributeName)
  /-- The restored value is one of the record's field. -/
  fits : Lawful rt mode → ∀ w, restoreValue rt e m = some w → rt.Fits (hintOf recordSide e) w
  /-- If `m` is a mirror value and its mirrors build their records, then the value it is a mirror
  value of is stored again, with those records in it. -/
  restores : Lawful rt mode → ∀ v, rt.Fits (hintOf recordSide e) v →
    mirrorValue rt mode e v = some m →
    (∀ p ∈ referencesIn e m, ∃ w, buildRecord rt p.2 = some w) →
    ∃ w, rt.exec locals record store = some (record.set attributeName w) ∧ Restored rt mode e v w

/-- The expression of the mirror value of a record's field. -/
def mirrorExpr (mode : Mode) (e : TypeExpr) (field : String) : Expr :=
  forward mode e (.member (.name persistedObject) field) 0

/-- What the conversions of a field do in the methods of a class.  A record has an attribute of the
name of the field; that of a mirror is declared in the body of the class. -/
structure Converts (N : NameForm) (owner : String) (mode : Mode) (e : TypeExpr) (field : String) :
    Prop where
  /-- The expression has the mirror value of what a record has in the field. -/
  forward : ∀ {Object : Type} (rt : Runtime Object), rt.InClass N owner →
    ∀ (locals : List (String × Value Object)) v,
      MethodLocals rt locals persistedObject (N.form field) v →
      rt.Fits (hintOf recordSide e) v →
      ConvertsValue rt mode e (hintOf (mirrorSide mode) e) locals v (mirrorExpr mode e field)
  /-- The statement stores the record value of what a mirror has in the field. -/
  backward : ∀ {Object : Type} (rt : Runtime Object), rt.InClass N owner →
    ∀ (locals : List (String × Value Object)) record m,
      MethodLocals rt locals "self" (N.inClass owner field) m →
      rt.Fits (hintOf (mirrorSide mode) e) m → Fresh e (record (N.form field)) →
      StoresValue rt mode e (N.form field) locals record m (statement e field)

theorem convertsValue_mirrorExpr {v : Value Object}
    (hlocals : MethodLocals rt locals persistedObject (rt.attributeOf field) v)
    (hfits : rt.Fits (hintOf recordSide e) v) :
    ConvertsValue rt mode e (hintOf (mirrorSide mode) e) locals v
      (mirrorExpr mode e field) where
  eval := eval_forward 0 (.of_method hlocals.names) hlocals.eval_member hfits
  fits hlawful _ hmirror := hlawful.fits_mirrorValue hfits hmirror
  succeeds hlawful := hlawful.exists_mirrorValue hfits

theorem storesValue_statement {record : Attributes Object} {m : Value Object}
    (hlocals : MethodLocals rt locals "self" (rt.attributeOf field) m)
    (hfits : rt.Fits (hintOf (mirrorSide mode) e) m)
    (hfresh : Fresh e (record (rt.attributeOf field))) :
    StoresValue rt mode e (rt.attributeOf field) locals record m (statement e field) where
  exec := exec_statement (.of_method hlocals.names) hlocals.eval_member hfits hfresh
  fits hlawful _ hrestore := hlawful.fits_restoreValue hfits hrestore
  restores hlawful v hv hmirror hreferences := by
    obtain ⟨w, hw⟩ := hlawful.exists_restoreValue hv hmirror hreferences
    refine ⟨w, ?_, hlawful.restored hv hmirror hw⟩
    rw [exec_statement (.of_method hlocals.names) hlocals.eval_member hfits hfresh, hw]
    rfl

/-! ### Fields that are not converted -/

/-- A value of a type with nothing in it. -/
def leastValue : TypeExpr → Value Unit
  | .primitive _ => .object ()
  | .reference _ => .object ()
  | .optional _ => .absent
  | .list _ => .collection .list []
  | .set _ => .collection .set []
  | .map _ _ => .mapping .dict []

/-- A runtime with one object, which is its own mirror and has one attribute. -/
def oneAttribute (attributeOf : String → String) (name : String) (v : Value Unit) :
    Runtime Unit where
  equal _ _ := true
  hashable _ := true
  isInstance _ _ := true
  shown _ other := if other = name then some v else none
  attributeOf := attributeOf
  fromPersisted _ record := some record
  buildPersisted o := some (.object o)
  items _ := none
  entries _ := none
  arrange := id

section

variable {attributeOf : String → String} {name : String} {v : Value Unit}

theorem fits_leastValue (e : TypeExpr) :
    (oneAttribute attributeOf name v).Fits (hintOf recordSide e) (leastValue e) := by
  cases e with
  | primitive type => exact ⟨(), rfl, rfl⟩
  | reference record => exact ⟨(), rfl, rfl⟩
  | optional inner => exact .inl rfl
  | list element => exact ⟨[], rfl, List.forall_mem_nil _⟩
  | set element => exact ⟨[], rfl, List.forall_mem_nil _⟩
  | map key value => exact ⟨[], rfl, List.forall_mem_nil _, .nil⟩

theorem exists_mirrorValue_leastValue (mode : Mode) (e : TypeExpr) :
    ∃ m, mirrorValue (oneAttribute attributeOf name v) mode e (leastValue e) = some m := by
  cases e with
  | primitive type => exact ⟨_, rfl⟩
  | reference record => exact ⟨_, rfl⟩
  | optional inner => exact ⟨_, rfl⟩
  | list element => exact ⟨_, rfl⟩
  | set element => cases mode <;> exact ⟨_, rfl⟩
  | map key value => exact ⟨_, rfl⟩

end

/-- An expression has no value if what it converts has none. -/
theorem eval_forward_eq_none {source : Expr} (depth : Nat)
    (hsource : rt.eval source locals = none) :
    rt.eval (forward mode e source depth) locals = none := by
  have hconstruct : ∀ container, rt.eval (.construct container source) locals = none := by
    intro container
    rw [Runtime.eval, hsource]
    cases locals.lookup container.name <;> rfl
  have heach : ∀ container value item,
      rt.eval (.constructEach container value item source) locals = none := by
    intro container value item
    rw [Runtime.eval, hsource]
    cases locals.lookup container.name <;> rfl
  have hpairs : ∀ key item value, rt.eval (.pairs key item value source) locals = none := by
    intro key item value
    rw [Runtime.eval, hsource]
    rfl
  cases e with
  | primitive type => exact hsource
  | reference record =>
      rw [forward, Runtime.eval, hsource]
      cases locals.lookup (mode.mirrorName record) <;> rfl
  | optional inner =>
      rw [forward]
      split
      · exact hsource
      · rw [Runtime.eval, hsource]
        rfl
  | list element | set element =>
      rw [forward]
      split
      · exact hconstruct _
      · exact heach _ _ _
  | map key value =>
      simp only [forward]
      split
      · exact hconstruct _
      · split
        · exact hpairs _ _ _
        · rw [Runtime.eval, hpairs]
          cases locals.lookup mode.style.mapping.name <;> rfl

/-- In the body of a class where the name of a field stands for another one, the record is not asked
for the attribute that it has. -/
theorem eq_of_converts (h : Converts N owner mode e field) :
    N.inClass owner field = N.form field := by
  by_contra hne
  let rt := oneAttribute (N.inClass owner) (N.form field) (leastValue e)
  have hlocals : MethodLocals rt [(persistedObject, .object ())] persistedObject (N.form field)
      (leastValue e) :=
    ⟨by decide, (), rfl, if_pos rfl⟩
  obtain ⟨m, hm⟩ : ∃ m, mirrorValue rt mode e (leastValue e) = some m :=
    exists_mirrorValue_leastValue mode e
  have hvalue := (h.forward rt (fun _ => rfl) _ _ hlocals (fits_leastValue e)).eval
  have hnone : rt.eval (mirrorExpr mode e field) [(persistedObject, .object ())] = none := by
    apply eval_forward_eq_none
    exact if_neg hne
  cases hnone.symm.trans (hvalue.trans hm)

theorem converts_of_eq (h : N.inClass owner field = N.form field) :
    Converts N owner mode e field where
  forward rt hclass locals v hlocals hfits := by
    rw [← h, ← hclass field] at hlocals
    exact convertsValue_mirrorExpr hlocals hfits
  backward rt hclass locals record m hlocals hfits hfresh := by
    rw [← hclass field] at hlocals
    rw [← h, ← hclass field] at hfresh ⊢
    exact storesValue_statement hlocals hfits hfresh

/-- The conversions of a field do what they should in a mirror unless its name is private. -/
theorem converts_iff (hrecord : isWord record.toList = true) :
    Converts N (mode.mirrorName record) mode e field ↔ isPrivate (N.form field) = false := by
  rw [← NameForm.inClass_eq_form_iff hrecord]
  exact ⟨eq_of_converts, converts_of_eq⟩

namespace FieldMapping

theorem ofField_of_parse {scope : Scope} {field : Field}
    (hparse : TypeExpr.parse field.declaredType = .ok e) (hscope : scope.refusal? mode e = none)
    {hint : TypeHint} (hhint : typeHint mode e = .ok hint) :
    ∃ mapping, ofField scope mode field = .ok mapping ∧
      mapping.declaration = field.name ++ ": " ++ hint.render ∧
      mapping.forward = (mirrorExpr mode e field.name).render ∧
      mapping.backward = (statement e field.name).render := by
  unfold ofField
  rw [hparse]
  simp only [hscope, ofType, hhint]
  exact ⟨_, rfl, rfl, rfl, rfl⟩

/-- Every field whose type can be read and is in scope has a mapping, whose texts are those of a
tree.  They can be read as code exactly if the name of the field can be declared, the records that
are referred to can be named in a mirror's name, and those of keys by themselves.  In the methods of
every mirror they convert the field exactly if its name is not private. -/
theorem ofField_converts_iff (N : NameForm) {scope : Scope} {field : Field}
    (hparse : TypeExpr.parse field.declaredType = .ok e)
    (hscope : scope.refusal? mode e = none) :
    ∃ mapping, ofField scope mode field = .ok mapping ∧
      typeHint mode e = .ok (MirrorField.ofType mode field.name e).hint ∧
      mapping.declaration =
        field.name ++ ": " ++ (MirrorField.ofType mode field.name e).hint.render ∧
      mapping.forward = (MirrorField.ofType mode field.name e).forward.render ∧
      mapping.backward = (MirrorField.ofType mode field.name e).backward.render ∧
      ((MirrorField.ofType mode field.name e).IsCode N ↔
        (LegalName field.name ∧ N.form field.name ≠ "__debug__") ∧
          (∀ record ∈ e.references, ∀ c ∈ record.toList, isIdentifierPart c = true) ∧
          ∀ record ∈ e.keyRecords, LegalName record) ∧
      ∀ record, isWord record.toList = true →
        (Converts N (mode.mirrorName record) mode e field.name ↔
          isPrivate (N.form field.name) = false) := by
  have hproper := TypeExpr.proper_of_parse hparse
  have hhint := typeHint_of_proper mode hproper
  obtain ⟨mapping, hmapping, hdeclaration, hforward, hbackward⟩ :=
    ofField_of_parse hparse hscope hhint
  exact ⟨mapping, hmapping, hhint, hdeclaration, hforward, hbackward, ofType_isCode_iff hproper,
    fun _ hrecord => converts_iff hrecord⟩

/-- A person who has itself and nobody as friends, and its mirror. -/
def friendRuntime : Runtime Bool where
  equal
    | .absent, .absent => true
    | .object a, .object b => a == b
    | _, _ => false
  hashable _ := true
  isInstance name mirrored := name == if mirrored then "ReadonlyPerson" else "Person"
  shown mirrored _ :=
    some (.collection (if mirrored then .tuple else .list) [.object mirrored, .absent])
  attributeOf := nameIn "ReadonlyPerson"
  fromPersisted
    | "ReadonlyPerson", .object false => some (.object true)
    | _, _ => none
  buildPersisted mirrored := if mirrored then some (.object false) else none
  items _ := none
  entries _ := none
  arrange := id

theorem friendRuntime_lawful : Lawful friendRuntime .readonly where
  arrange _ _ := Iff.rfl
  mirror record o m _ hmirror := by
    simp only [friendRuntime] at hmirror
    split at hmirror
    · rename_i hname _
      cases hmirror
      exact ⟨true, rfl, by rw [hname]; rfl, rfl⟩
    · cases hmirror
  record record o v hinstance hbuild := by
    cases o with
    | false => cases hbuild
    | true =>
        cases hbuild
        have hname : "Readonly" ++ record = "Readonly" ++ "Person" := by
          simpa [friendRuntime, Mode.mirrorName, Mode.style] using hinstance
        exact ⟨false, rfl, beq_iff_eq.2 ((String.append_right_inj _).1 hname)⟩
  rebuilt _ _ _ _ _ _ _ _ := rfl

/-- The list of friends of a person has a mirror value, and comes back from it. -/
theorem ofField_converts_iff_friends :
    TypeExpr.parse "List<Person?>" = .ok (.list (.optional (.reference "Person"))) ∧
      Scope.refusal? {} .readonly (.list (.optional (.reference "Person"))) = none ∧
      ∃ mapping, ofField {} .readonly ⟨"friends", "List<Person?>", true⟩ = .ok mapping ∧
        mapping.forward =
          (mirrorExpr .readonly (.list (.optional (.reference "Person"))) "friends").render ∧
        (MirrorField.ofType .readonly "friends" (.list (.optional (.reference "Person")))).IsCode
          .asWritten ∧
        friendRuntime.eval
            (mirrorExpr .readonly (.list (.optional (.reference "Person"))) "friends")
            [(persistedObject, .object false)] =
          some (.collection .tuple [.object true, .absent]) ∧
        ∃ w, friendRuntime.exec [("self", .object true)] (fun _ => some (.collection .list []))
            (statement (.list (.optional (.reference "Person"))) "friends") =
              some (Attributes.set (fun _ => some (.collection .list [])) "friends" w) ∧
          Restored friendRuntime .readonly (.list (.optional (.reference "Person")))
            (.collection .list [.object false, .absent]) w := by
  have hparse : TypeExpr.parse "List<Person?>" =
      .ok (.list (.optional (.reference "Person"))) := by
    decide +kernel
  obtain ⟨mapping, hmapping, -, -, hforward, -, hcode, hconverts⟩ :=
    @ofField_converts_iff .readonly _ .asWritten {} ⟨"friends", "List<Person?>", true⟩ hparse rfl
  have hclass : friendRuntime.InClass .asWritten "ReadonlyPerson" := fun _ => rfl
  have hrecord : MethodLocals friendRuntime [(persistedObject, .object false)] persistedObject
      "friends" (.collection .list [.object false, .absent]) :=
    ⟨by decide, false, rfl, rfl⟩
  have hmirror : MethodLocals friendRuntime [("self", .object true)] "self"
      "friends" (.collection .tuple [.object true, .absent]) :=
    ⟨by decide, true, rfl, rfl⟩
  have hfits : friendRuntime.Fits (hintOf recordSide (.list (.optional (.reference "Person"))))
      (.collection .list [.object false, .absent]) := by
    refine ⟨_, rfl, ?_⟩
    simp [Runtime.Fits, hintOf, recordSide, friendRuntime]
  have hfriends := (hconverts "Person" (by decide)).2 (by decide)
  have hvalue := hfriends.forward friendRuntime hclass _ _ hrecord hfits
  have hstore := hfriends.backward friendRuntime hclass _
    (fun _ => some (.collection .list [])) _ hmirror (hvalue.fits friendRuntime_lawful _ rfl) rfl
  have hnames : "Person".toList.all isIdentifierPart = true := by decide
  refine ⟨hparse, rfl, mapping, hmapping, hforward, hcode.2 ⟨by decide, ?_, ?_⟩, hvalue.eval, ?_⟩
  · exact List.forall_mem_singleton.2 (List.all_eq_true.1 hnames)
  · exact List.forall_mem_nil _
  · apply hstore.restores friendRuntime_lawful _ hfits rfl
    simp [referencesIn, buildRecord, friendRuntime]

/-- The name of a key can be a reserved word, which is no annotation, and a private field is not
converted.  Both fields are mapped. -/
theorem maps_unreadable_and_private :
    (∃ mapping, ofField {} .readonly ⟨"x", "Map<class, Int>", true⟩ = .ok mapping ∧
      mapping.declaration = "x: immutabledict[class, int]") ∧
    ¬ (MirrorField.ofType .readonly "x" (.map (.reference "class") (.primitive .int))).IsCode
        .asWritten ∧
    (∃ mapping, ofField {} .readonly ⟨"__x", "Int", true⟩ = .ok mapping ∧
      mapping.forward = "persisted_object.__x") ∧
    ¬ Converts .asWritten "ReadonlyA" .readonly (.primitive .int) "__x" := by
  refine ⟨⟨⟨"x", "Map<class, Int>", .map, "x: immutabledict[class, int]",
      "immutabledict(persisted_object.x)", "persisted_object.x.update(self.x)",
      ["from immutabledict import immutabledict"]⟩, by decide +kernel, rfl⟩, ?_,
    ⟨⟨"__x", "Int", .primitive, "__x: int", "persisted_object.__x",
      "persisted_object.__x = self.__x", []⟩, by decide +kernel, rfl⟩, ?_⟩
  · intro hcode
    exact absurd (hcode.legal.names "class" (by decide)).not_reserved (by decide)
  · intro hconverts
    exact absurd (eq_of_converts hconverts) (by decide)

end FieldMapping

end RecordMirror
