import RecordMirror.Observation.World
/-!
How steps change a world.  An assignment first holds the value and then tells the observers that the
instance has at that moment, in order; what they do in the meantime counts from the next broadcast
on.  An observer that fails ends the broadcast, and the value stays.
-/

namespace RecordMirror.Observation

/-- How observers are told of changes. -/
abbrev Tell := World → String → Change → World × Except Fault Unit

namespace World

/-- Tells the elements of a list of observers of a change, in order. -/
def tellAll (tell : Tell) (change : Change) : List Item → World → World × Except Fault Unit
  | [], w => (w, .ok ())
  | .value value :: _, w => (w, .error (.notCallable value.typeName))
  | .observer id :: rest, w =>
    match tell w id change with
    | (w, .error fault) => (w, .error fault)
    | (w, .ok ()) => tellAll tell change rest w

/-- Tells the observers that an instance has at this moment of a change. -/
def broadcast (tell : Tell) (change : Change) (w : World) : World × Except Fault Unit :=
  match w.observersOf change.target with
  | .error fault => (w, .error fault)
  | .ok observers => tellAll tell change observers w

/-- Lets an attribute of an instance hold what is held under a number. -/
def store (w : World) (target : Nat) (name : String) (number : Nat) : World :=
  w.modifyAttributes target (setValue name number)

/-- Assigns an attribute, with a number of broadcasts.  Each of them compares with what was there
before the first. -/
def assignWith (tell : Tell) (target : Nat) (name : String) (number : Nat) :
    Nat → World → World × Except Fault Unit
  | 0, w => (w.store target name number, .ok ())
  | broadcasts + 1, w =>
    let change : Change := ⟨target, name, w.own? target name, number⟩
    match assignWith tell target name number broadcasts w with
    | (w, .error fault) => (w, .error fault)
    | (w, .ok ()) => broadcast tell change w

/-- Assigns a value to an attribute of an instance. -/
def assign (tell : Tell) (target : Nat) (name : String) (value : Json) (w : World) :
    World × Except Fault Unit :=
  match w.instance? target with
  | none => (w, .ok ())
  | some i =>
    if i.kind.frozen then (w, .error (.frozenAssignment name))
    else
      let (w, number) := w.hold (Held.ofJson value)
      assignWith tell target name number i.kind.broadcasts w

/-- Initialises the fields of a new instance.  Those of a frozen class are not broadcast. -/
def initialise (tell : Tell) (target : Nat) (kind : Class) :
    List (String × Json) → World → World × Except Fault Unit
  | [], w => (w, .ok ())
  | (name, value) :: rest, w =>
    let (w, number) := w.hold (Held.ofJson value)
    match assignWith tell target name number (if kind.frozen then 0 else kind.broadcasts) w with
    | (w, .error fault) => (w, .error fault)
    | (w, .ok ()) => initialise tell target kind rest w

/-- The first keyword that the fields of a class have no place for. -/
def badKeyword? (kind : Class) (values : List (String × Json)) : Option Fault :=
  values.findSome? fun (name, _) =>
    if (Json.member? kind.fields name).isSome then none
    else if name = "self" then some (.repeatedKeyword kind.name name)
    else some (.unknownKeyword kind.name name)

/-- Makes an instance.  It has its name only once it is initialised. -/
def make (tell : Tell) (className name : String) (values : List (String × Json)) (w : World) :
    World × Except Fault Unit :=
  match w.classNamed className with
  | .error fault => (w, .error fault)
  | .ok kind =>
    match badKeyword? kind values with
    | some fault => (w, .error fault)
    | none =>
      let target := w.instances.length
      let given := kind.fields.map fun (name, default) =>
        (name, (Json.member? values name).getD default)
      match initialise tell target kind given
        { w with instances := w.instances ++ [{ name := name, kind := kind }] } with
      | (w, .error fault) => (w, .error fault)
      | (w, .ok ()) => ({ w with names := setValue name target w.names }, .ok ())

/-- Deletes an attribute of an instance.  Nobody is told. -/
def delete (target : Nat) (name : String) (w : World) : World × Except Fault Unit :=
  match w.instance? target with
  | none => (w, .ok ())
  | some i =>
    if i.kind.frozen then (w, .error (.frozenDeletion name))
    else if (w.own? target name).isNone then (w, .error (.noAttribute i.kind.name name))
    else (w.modifyAttributes target (·.filter (·.1 ≠ name)), .ok ())

/-- Extends a held list in place. -/
def extendHeld (w : World) (number : Nat) (item : Item) : World × Except Fault Unit :=
  match w.heldAt number with
  | .list items => (w.setHeld number (.list (items ++ [item])), .ok ())
  | other => (w, .error (.noAttribute other.kind "append"))

/-- Extends the list that an instance shows under a name.  Nobody is told. -/
def append (target : Nat) (name : String) (value : Json) (w : World) :
    World × Except Fault Unit :=
  match w.own? target name with
  | some number => w.extendHeld number (.value value)
  | none =>
    match w.shown target name with
    | .error fault => (w, .error fault)
    | .ok held => (w, .error (.noAttribute held.kind "append"))

/-- The list of the observers of an instance.  It is made if there is none. -/
def observerList (target : Nat) (w : World) : World × Nat :=
  match w.own? target observersName with
  | some number => (w, number)
  | none =>
    let (w, number) := w.hold (.list [])
    (w.store target observersName number, number)

/-- Registers an observer with an instance. -/
def observe (target : Nat) (subscription observer : String) (w : World) :
    World × Except Fault Unit :=
  if w.isObservable target then
    let (w, number) := w.observerList target
    match w.extendHeld number (.observer observer) with
    | (w, .error fault) => (w, .error fault)
    | (w, .ok ()) =>
      ({ w with subscriptions := setValue subscription ⟨number, observer⟩ w.subscriptions }, .ok ())
  else (w, .error (.notObservable (w.kindOf target)))

/-- The elements of a list without the first registration of an observer. -/
def withoutFirst (observer : String) : List Item → List Item
  | [] => []
  | .observer id :: rest =>
    if id = observer then rest else .observer id :: withoutFirst observer rest
  | item :: rest => item :: withoutFirst observer rest

/-- Ends a subscription: takes the first registration of its observer from the list it was made
in, if there is one. -/
def unsubscribe (w : World) (subscription : Subscription) : World :=
  match w.heldAt subscription.list with
  | .list items => w.setHeld subscription.list (.list (withoutFirst subscription.observer items))
  | .value _ => w

/-- What `observe` says of a class.  A class has no list of observers. -/
def observeClass (kind : Class) : Fault :=
  if kind.isObservable then .noAttribute "mappingproxy" "setdefault" else .notObservable "type"

/-- Gives an observer its reaction, unless it has one. -/
def introduce (w : World) (observer : String) (steps : List Step) (times : Nat) : World :=
  match valueOf? observer w.reactions with
  | some _ => w
  | none => { w with reactions := setValue observer ⟨steps, times⟩ w.reactions }

/-- A result without a value of its own. -/
def withoutValue : World × Except Fault Unit → World × Except Fault Json
  | (w, .ok ()) => (w, .ok .null)
  | (w, .error fault) => (w, .error fault)

/-- Does something with the instance of a name. -/
def withInstance (w : World) (name : String)
    (action : Nat → World × Except Fault Json) : World × Except Fault Json :=
  match w.named name with
  | .error fault => (w, .error fault)
  | .ok target => action target

/-- Takes a step. -/
def takeStep (tell : Tell) (w : World) : Step → World × Except Fault Json
  | .new className name values => withoutValue (w.make tell className name values)
  | .set name field value => w.withInstance name fun target =>
    withoutValue (w.assign tell target field value)
  | .get name field => w.withInstance name fun target =>
    (w, (w.shown target field).map Held.toJson)
  | .delete name field => w.withInstance name fun target =>
    withoutValue (w.delete target field)
  | .append name field value => w.withInstance name fun target =>
    withoutValue (w.append target field value)
  | .observe name subscription observer steps times => w.withInstance name fun target =>
    withoutValue ((w.introduce observer steps times).observe target subscription observer)
  | .unsubscribe subscription =>
    match valueOf? subscription w.subscriptions with
    | none => (w, .error (.unknownName subscription))
    | some found => (w.unsubscribe found, .ok .null)
  | .isObservable name => w.withInstance name fun target => (w, .ok (.bool (w.isObservable target)))
  | .isObservableClass className => (w, (w.classNamed className).map (.bool ·.isObservable))
  | .isObservableValue _ => (w, .ok (.bool false))
  | .observeClass className =>
    (w, (w.classNamed className).bind fun kind => .error (observeClass kind))
  | .observeValue value => (w, .error (.notObservable value.typeName))
  | .fail message => (w, .error (.failed message))

/-- Takes steps in order, up to the first that fails. -/
def takeSteps (tell : Tell) : List Step → World → World × Except Fault Unit
  | [], w => (w, .ok ())
  | step :: rest, w =>
    match w.takeStep tell step with
    | (w, .error fault) => (w, .error fault)
    | (w, .ok _) => takeSteps tell rest w

/-- What an observer notes of a change. -/
def eventOf (w : World) (observer : String) (change : Change) : Event :=
  { observer := observer
    instanceName := ((w.instance? change.target).map (·.name)).getD ""
    attributeName := change.name
    old := (change.old.map fun number => (w.heldAt number).toJson).getD .null
    new := (w.heldAt change.new).toJson
    shown := ((w.shown? change.target change.name).map Held.toJson).getD .null }

/-- Notes a change. -/
def note (w : World) (event : Event) : World :=
  { w with events := w.events ++ [event] }

/-- Tells an observer of a change: it notes the change and then takes its steps, if it has leave to.
Observers may react to each other only so many levels deep. -/
def tell : Nat → Tell
  | depth, w, observer, change =>
    let w := w.note (w.eventOf observer change)
    match valueOf? observer w.reactions with
    | some ⟨steps, left + 1⟩ =>
      match depth with
      | 0 => (w, .error .exhausted)
      | depth + 1 =>
        takeSteps (tell depth) steps
          { w with reactions := setValue observer ⟨steps, left⟩ w.reactions }
    | _ => (w, .ok ())

end World

/-- What came of a step: its value or fault, what observers noted, and the world after it. -/
structure StepReport where
  result : Except Fault Json
  events : List Event
  world : World

namespace World

/-- Takes steps in order, whether they fail or not, and reports on each. -/
def perform (depth : Nat) (w : World) : List Step → List StepReport
  | [] => []
  | step :: rest =>
    match ({ w with events := [] } : World).takeStep (tell depth) step with
    | (after, result) => ⟨result, after.events, after⟩ :: perform depth after rest

/-- What comes of a script in a world of some classes.  Observers never react to each other more
often than they have leave to. -/
def run (decls : List ClassDecl) (steps : List Step) : List StepReport :=
  perform (reactionsOf steps) { classes := Class.declare decls } steps

end World

end RecordMirror.Observation
