import RecordMirror.Conversion
import RecordMirror.Proofs.Code.Value
/-!
What generated expressions and statements mean.  A comprehension evaluates its source outside and
its value inside, once for each item, with the loop variable before all others of its name.
-/

namespace RecordMirror.Code

/-- The container a display builds. -/
def Display.container : Display → Container
  | list => .list
  | set => .set

/-- The attributes of a record. -/
def Attributes (Object : Type) : Type :=
  String → Option (Value Object)

/-- The attributes after one of them is set. -/
def Attributes.set {Object : Type} (record : Attributes Object) (field : String)
    (v : Value Object) : Attributes Object :=
  fun name => if name = field then some v else record name

namespace Runtime

variable {Object : Type} (rt : Runtime Object)

/-- The value of an expression, given what the local variables stand for.  The name of a class or a
container means what it says only where no local variable hides it. -/
def eval : Expr → List (String × Value Object) → Option (Value Object)
  | .name text, locals => locals.lookup text
  | .member object field, locals =>
    (eval object locals).bind fun
      | .object o => rt.shown o (rt.attributeOf field)
      | _ => none
  | .fromPersisted mirror record, locals =>
    match locals.lookup mirror with
    | some _ => none
    | none => (eval record locals).bind (rt.fromPersisted mirror)
  | .buildPersisted mirror, locals =>
    (eval mirror locals).bind fun
      | .object o => rt.buildPersisted o
      | _ => none
  | .construct container source, locals =>
    match locals.lookup container.name with
    | some _ => none
    | none => (eval source locals).bind (rt.make container)
  | .constructEach container value item source, locals =>
    match locals.lookup container.name with
    | some _ => none
    | none => do
      let items ← (eval source locals).bind rt.itemsOf
      let values ← items.mapM fun x => eval value ((item, x) :: locals)
      rt.makeFromItems container values
  | .displayEach display value item source, locals => do
    let items ← (eval source locals).bind rt.itemsOf
    let values ← items.mapM fun x => eval value ((item, x) :: locals)
    rt.makeFromItems display.container values
  | .pairs key item value source, locals => do
    let entries ← (eval source locals).bind rt.entriesOf
    let pairs ← entries.mapM fun e => do
      let k ← List.lookup key ((item, e.2) :: (key, e.1) :: locals)
      let v ← eval value ((item, e.2) :: (key, e.1) :: locals)
      return (k, v)
    rt.makeMapping .dict [] pairs
  | .ifPresent value subject, locals => do
    match ← eval subject locals with
    | .absent => some .absent
    | _ => eval value locals

/-- The attribute of the record under construction that an expression names. -/
def targetOf : Expr → Option String
  | .member (.name object) field =>
    if object = persistedObject then some (rt.attributeOf field) else none
  | _ => none

/-- A container filled with further items. -/
def fillItems (filling : Filling) (old : Value Object) (items : List (Value Object)) :
    Option (Value Object) :=
  match filling, old with
  | .extend, .collection .list present => some (.collection .list (present ++ items))
  | .update, .collection .set present => rt.makeSet .set present items
  | .update, .mapping .dict present => (items.mapM pairOf).bind (rt.makeMapping .dict present)
  | _, _ => none

/-- A container filled with what another value holds. -/
def fill (filling : Filling) (old source : Value Object) : Option (Value Object) :=
  match filling, old, rt.entriesOf source with
  | .update, .mapping .dict present, some entries => rt.makeMapping .dict present entries
  | _, _, _ => (rt.itemsOf source).bind (rt.fillItems filling old)

/-- The attributes of the record under construction after a statement. -/
def exec (locals : List (String × Value Object)) (record : Attributes Object) :
    Statement → Option (Attributes Object)
  | .assign target value => do
    let field ← rt.targetOf target
    let v ← rt.eval value locals
    return record.set field v
  | .fill target filling source => do
    let field ← rt.targetOf target
    let old ← record field
    let v ← (rt.eval source locals).bind (rt.fill filling old)
    return record.set field v
  | .fillEach target filling value item source => do
    let field ← rt.targetOf target
    let old ← record field
    let items ← (rt.eval source locals).bind rt.itemsOf
    let values ← items.mapM fun x => rt.eval value ((item, x) :: locals)
    let v ← rt.fillItems filling old values
    return record.set field v

end Runtime

end RecordMirror.Code
