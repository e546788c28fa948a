import RecordMirror.Observation.Class
import RecordMirror.Observation.Step
import RecordMirror.Text.Quoted
/-!
A world of instances and observers.  What is assigned to an attribute is held under a number of its
own: a list that is extended in place is extended for all who hold it, be it an attribute, a
subscription, or the report of a change.
-/

namespace RecordMirror.Observation

/-- An element of a held list. -/
inductive Item
  | value (value : Json)
  | observer (id : String)
deriving Repr, Inhabited

/-- What is held: a list, or a value that cannot be extended. -/
inductive Held
  | list (items : List Item)
  | value (value : Json)
deriving Repr, Inhabited

/-- An instance. -/
structure Instance where
  name : String
  kind : Class
  /-- The numbers of what the attributes of the instance hold. -/
  attributes : List (String × Nat) := []
deriving Repr, Inhabited

/-- What an observer is told: the instance, the attribute, and the numbers of what it held before,
if anything, and holds now. -/
structure Change where
  target : Nat
  name : String
  old : Option Nat
  new : Nat
deriving DecidableEq, Repr

/-- What an observer notes when it is told of a change. -/
structure Event where
  observer : String
  instanceName : String
  attributeName : String
  old : Json
  new : Json
  /-- What the instance shows at that moment. -/
  shown : Json
deriving Repr, Inhabited

/-- What an observer does, and how many times it will still do so. -/
structure Reaction where
  steps : List Step
  left : Nat
deriving Repr, Inhabited

/-- A registration: the number of the list of observers it was made in, and the observer. -/
structure Subscription where
  list : Nat
  observer : String
deriving DecidableEq, Repr

/-- Why a step fails. -/
inductive Fault
  | noAttribute (kind name : String)
  | frozenAssignment (name : String)
  | frozenDeletion (name : String)
  | notObservable (kind : String)
  | notIterable (kind : String)
  | notCallable (kind : String)
  | unknownKeyword (className name : String)
  | repeatedKeyword (className name : String)
  | unknownName (name : String)
  | failed (message : String)
  /-- The observers took more steps than they were given leave to. -/
  | exhausted
deriving DecidableEq, Repr

/-- The wording of a fault. -/
def Fault.message : Fault → String
  | noAttribute kind name => s!"'{kind}' object has no attribute '{name}'"
  | frozenAssignment name => "cannot assign to field " ++ quoted name
  | frozenDeletion name => "cannot delete field " ++ quoted name
  | notObservable kind => kind ++ " instances are not observable"
  | notIterable kind => s!"'{kind}' object is not iterable"
  | notCallable kind => s!"'{kind}' object is not callable"
  | unknownKeyword className name =>
    s!"{className}.__init__() got an unexpected keyword argument '{name}'"
  | repeatedKeyword className name =>
    s!"{className}.__init__() got multiple values for argument '{name}'"
  | unknownName name => quoted name
  | failed message => message
  | exhausted => "the observers do not come to an end"

/-- A world. -/
structure World where
  classes : List Class
  /-- All instances ever made; an instance is known by its place. -/
  instances : List Instance := []
  /-- What names stand for. -/
  names : List (String × Nat) := []
  /-- All that was ever held, in the order of its numbers. -/
  held : List Held := []
  subscriptions : List (String × Subscription) := []
  reactions : List (String × Reaction) := []
  /-- What the observers have noted. -/
  events : List Event := []
deriving Repr, Inhabited

/-- The value of a key. -/
def valueOf? (key : String) (pairs : List (String × α)) : Option α :=
  (pairs.find? (·.1 = key)).map (·.2)

/-- Sets the value of a key; a new key goes to the end. -/
def setValue (key : String) (value : α) : List (String × α) → List (String × α)
  | [] => [(key, value)]
  | (other, old) :: rest =>
    if other = key then (key, value) :: rest else (other, old) :: setValue key value rest

theorem valueOf?_setValue (key other : String) (value : α) (pairs : List (String × α)) :
    valueOf? other (setValue key value pairs) =
      if other = key then some value else valueOf? other pairs := by
  induction pairs with
  | nil =>
    by_cases h : key = other <;> simp [valueOf?, setValue, h]
    exact fun heq => absurd heq.symm h
  | cons head rest ih =>
    obtain ⟨name, old⟩ := head
    unfold valueOf? at ih ⊢
    by_cases hname : name = key
    · subst hname
      by_cases h : name = other <;> simp [setValue, h]
      exact fun heq => absurd heq.symm h
    · by_cases h : name = other
      · subst h
        simp [setValue, hname]
      · simp [setValue, hname, h, ih]

/-- What an element is outside the world.  Observers have no value. -/
def Item.toJson : Item → Json
  | value v => v
  | observer _ => .null

/-- What a held thing is outside the world. -/
def Held.toJson : Held → Json
  | list items => .array (items.map Item.toJson)
  | value v => v

/-- How a value is held. -/
def Held.ofJson : Json → Held
  | .array items => list (items.map .value)
  | other => value other

/-- The name of the kind of a held thing. -/
def Held.kind (h : Held) : String :=
  h.toJson.typeName

/-- The elements of a held thing, in order. -/
def Held.items : Held → Except Fault (List Item)
  | list items => .ok items
  | value (.string s) => .ok (s.toList.map fun c => .value (.string (String.singleton c)))
  | value (.object members) => .ok (members.map fun m => .value (.string m.1))
  | value other => .error (.notIterable other.typeName)

namespace World

/-- The instance of a number. -/
def instance? (w : World) (target : Nat) : Option Instance :=
  w.instances[target]?

/-- What is held under a number. -/
def heldAt (w : World) (number : Nat) : Held :=
  w.held.getD number (.value .null)

/-- Holds something new, under the next number. -/
def hold (w : World) (held : Held) : World × Nat :=
  ({ w with held := w.held ++ [held] }, w.held.length)

/-- Replaces what is held under a number. -/
def setHeld (w : World) (number : Nat) (held : Held) : World :=
  { w with held := w.held.set number held }

/-- Changes the attributes of an instance. -/
def modifyAttributes (w : World) (target : Nat)
    (change : List (String × Nat) → List (String × Nat)) : World :=
  { w with
    instances := w.instances.modify target fun i => { i with attributes := change i.attributes } }

/-- The number of what an attribute of an instance holds. -/
def own? (w : World) (target : Nat) (name : String) : Option Nat :=
  (w.instance? target).bind fun i => valueOf? name i.attributes

/-- What an instance shows under a name: its own attribute, or one of its class. -/
def shown? (w : World) (target : Nat) (name : String) : Option Held :=
  match w.own? target name with
  | some number => some (w.heldAt number)
  | none =>
    ((w.instance? target).bind fun i => Json.member? i.kind.attributes name).map Held.ofJson

/-- The name of the class of an instance. -/
def kindOf (w : World) (target : Nat) : String :=
  ((w.instance? target).map (·.kind.name)).getD ""

/-- What an instance shows under a name, or why it shows nothing. -/
def shown (w : World) (target : Nat) (name : String) : Except Fault Held :=
  match w.shown? target name with
  | some held => .ok held
  | none => .error (.noAttribute (w.kindOf target) name)

/-- Whether an instance is marked as observable. -/
def isObservable (w : World) (target : Nat) : Bool :=
  match w.shown? target markerName with
  | some (.value (.bool true)) => true
  | _ => false

/-- The observers of an instance at this moment, in order. -/
def observersOf (w : World) (target : Nat) : Except Fault (List Item) :=
  match w.own? target observersName with
  | none => .ok []
  | some number => (w.heldAt number).items

/-- The instance of a name. -/
def named (w : World) (name : String) : Except Fault Nat :=
  match valueOf? name w.names with
  | some target => .ok target
  | none => .error (.unknownName name)

/-- The class of a name. -/
def classNamed (w : World) (name : String) : Except Fault Class :=
  match Class.find? w.classes name with
  | some kind => .ok kind
  | none => .error (.unknownName name)

/-- The attributes of all named instances, without their observers. -/
def state (w : World) : List (String × List (String × Json)) :=
  w.names.map fun (name, target) =>
    (name, (((w.instance? target).map (·.attributes)).getD []).filterMap fun (field, number) =>
      if field = observersName then none else some (field, (w.heldAt number).toJson))

end World

end RecordMirror.Observation
