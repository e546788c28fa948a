import RecordMirror.Json
/-!
What can be done with instances and their observers.  An observer is a script as well: the steps it
takes when it is told of a change.
-/

namespace RecordMirror.Observation

/-- A step.  Instances and subscriptions have names. -/
inductive Step
  | new (className name : String) (values : List (String × Json))
  | set (instanceName attributeName : String) (value : Json)
  | get (instanceName attributeName : String)
  | delete (instanceName attributeName : String)
  | append (instanceName attributeName : String) (value : Json)
  /-- Lets an observer watch an instance.  During its first `times` calls it takes `steps`. -/
  | observe (instanceName subscription observer : String) (steps : List Step) (times : Nat)
  | unsubscribe (subscription : String)
  | isObservable (instanceName : String)
  | isObservableClass (className : String)
  | isObservableValue (value : Json)
  | observeClass (className : String)
  | observeValue (value : Json)
  | fail (message : String)
deriving Repr, Inhabited

mutual

/-- The number of times that observers in a step may take steps of their own. -/
def Step.reactions : Step → Nat
  | .observe _ _ _ steps times => times + reactionsOf steps
  | _ => 0

/-- The number of times that observers in a list of steps may take steps of their own. -/
def reactionsOf : List Step → Nat
  | [] => 0
  | step :: rest => step.reactions + reactionsOf rest

end

end RecordMirror.Observation
