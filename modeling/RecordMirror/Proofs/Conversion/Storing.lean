import RecordMirror.Proofs.Conversion.Evaluate
/-!
The statement of a field stores the record value of the mirror's field into a fresh record, whose
containers it finds empty and fills in place.
-/

namespace RecordMirror.Conversion

open Code

variable {Object : Type} {rt : Runtime Object} {mode : Mode}
  {locals : List (String × Value Object)} {record : Attributes Object} {field : String}

/-- What a fresh record has in a field: the containers are there and empty. -/
def Fresh : TypeExpr → Option (Value Object) → Prop
  | .list _, v => v = some (.collection .list [])
  | .set _, v => v = some (.collection .set [])
  | .map _ _, v => v = some (.mapping .dict [])
  | _, _ => True

theorem exec_assign {value : Expr} :
    rt.exec locals record (.assign (.member (.name persistedObject) field) value) =
      (rt.eval value locals).map (record.set (rt.attributeOf field)) :=
  Option.map_eq_bind.symm

theorem exec_fill {filling : Filling} {source : Expr} {old : Value Object}
    (hold : record (rt.attributeOf field) = some old) :
    rt.exec locals record (.fill (.member (.name persistedObject) field) filling source) =
      ((rt.eval source locals).bind (rt.fill filling old)).map
        (record.set (rt.attributeOf field)) := by
  change ((record (rt.attributeOf field)).bind fun old =>
    ((rt.eval source locals).bind (rt.fill filling old)).bind fun v =>
      some (record.set (rt.attributeOf field) v)) = _
  rw [hold, Option.map_eq_bind]
  rfl

theorem exec_fillEach {filling : Filling} {value source : Expr} {item : String} {kind : Container}
    {items : List (Value Object)} {old : Value Object} {f : Value Object → Option (Value Object)}
    (hold : record (rt.attributeOf field) = some old)
    (hsource : rt.eval source locals = some (.collection kind items))
    (hvalue : ∀ x ∈ items, rt.eval value ((item, x) :: locals) = f x) :
    rt.exec locals record
        (.fillEach (.member (.name persistedObject) field) filling value item source) =
      ((items.mapM f).bind (rt.fillItems filling old)).map
        (record.set (rt.attributeOf field)) := by
  change ((record (rt.attributeOf field)).bind fun old =>
    ((rt.eval source locals).bind rt.itemsOf).bind fun items =>
      (items.mapM fun x => rt.eval value ((item, x) :: locals)).bind fun values =>
        (rt.fillItems filling old values).bind fun v =>
          some (record.set (rt.attributeOf field) v)) = _
  rw [hold, hsource, Option.map_eq_bind, Option.bind_assoc, ← mapM_congr hvalue]
  rfl

theorem fill_collection (filling : Filling) (old : Value Object) (kind : Container)
    (items : List (Value Object)) :
    rt.fill filling old (.collection kind items) = rt.fillItems filling old items := by
  unfold Runtime.fill
  split
  · rename_i hentries
    cases hentries
  · rfl

/-- A collection of the record is filled with the restored items of the mirror's. -/
theorem exec_fillItems {filling : Filling} {element : TypeExpr} {source : Expr} {kind : Container}
    {items : List (Value Object)} {old : Value Object} (hlocals : HidesNothing mode locals)
    (hold : record (rt.attributeOf field) = some old)
    (hsource : rt.eval source locals = some (.collection kind items))
    (hitems : ∀ x ∈ items, rt.Fits (hintOf (mirrorSide mode) element) x) :
    rt.exec locals record
        (fillItems (.member (.name persistedObject) field) filling element source) =
      ((items.mapM (restoreValue rt element)).bind (rt.fillItems filling old)).map
        (record.set (rt.attributeOf field)) := by
  unfold fillItems
  split
  · rename_i hcopied
    rw [exec_fill hold, hsource, restoreValue, convert_items_of_isCopied hcopied]
    exact congrArg (Option.map (record.set (rt.attributeOf field)))
      (fill_collection filling old kind items)
  · exact exec_fillEach hold hsource fun x hx =>
      eval_backward 1 (hlocals.cons (.inl rfl) 0 x) (eval_item 0 x) (hitems x hx)

theorem exec_statement {e : TypeExpr} {v : Value Object} (hlocals : HidesNothing mode locals)
    (hself : rt.eval (.member (.name "self") field) locals = some v)
    (hfits : rt.Fits (hintOf (mirrorSide mode) e) v)
    (hfresh : Fresh e (record (rt.attributeOf field))) :
    rt.exec locals record (statement e field) =
      (restoreValue rt e v).map (record.set (rt.attributeOf field)) := by
  cases e with
  | primitive | reference | optional =>
      rw [← eval_backward 0 hlocals hself hfits]
      exact exec_assign
  | list element =>
      obtain ⟨items, rfl, hitems⟩ := hfits
      rw [statement, exec_fillItems hlocals hfresh hself hitems]
      exact congrArg (Option.map (record.set (rt.attributeOf field))) Option.map_eq_bind.symm
  | set element =>
      obtain ⟨items, rfl, hitems⟩ := hfits
      exact exec_fillItems hlocals hfresh hself fun x hx => (hitems x hx).1
  | map key value =>
      have hwhole := eval_backward 0 hlocals hself hfits
      obtain ⟨entries, rfl, hentries, hpairwise⟩ := hfits
      have hapart : KeysApart rt entries := ⟨fun e he => (hentries e he).2.1, hpairwise⟩
      simp only [statement]
      split
      · rename_i hcopied
        rw [exec_fill hfresh, hself, restoreValue, convert, convert_entries_of_isCopied hcopied]
        exact congrArg (Option.map (record.set (rt.attributeOf field))) (hapart.makeMapping .dict)
      · rw [exec_fill hfresh, hwhole, restoreValue, convert]
        apply congrArg (Option.map (record.set (rt.attributeOf field)))
        exact (Option.bind_map ..).trans (hapart.bind_makeMapping _ .dict)

end RecordMirror.Conversion
