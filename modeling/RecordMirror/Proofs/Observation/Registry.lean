import RecordMirror.Observation.Run
/-!
Which registrations of observers there are.  The list of an instance should hold the observers of
those whose subscriptions were not ended; a registry keeps the account.
-/

namespace RecordMirror.Observation

/-- A registration of an observer with an instance, and whether its subscription was ended. -/
structure Registration where
  target : Nat
  observer : String
  ended : Bool := false
deriving DecidableEq, Repr

/-- All registrations ever made, in order, and the ones that the names of subscriptions stand
for. -/
structure Registry where
  made : List Registration := []
  names : List (String × Nat) := []
deriving Repr

namespace Registry

/-- The observer of a registration with an instance, unless its subscription was ended. -/
def observer? (target : Nat) (x : Registration) : Option String :=
  if x.target = target ∧ x.ended = false then some x.observer else none

/-- The observers that are registered with an instance, in the order of their registrations. -/
def observers (r : Registry) (target : Nat) : List String :=
  r.made.filterMap (observer? target)

/-- Registers an observer. -/
def register (r : Registry) (target : Nat) (subscription observer : String) : Registry :=
  ⟨r.made ++ [⟨target, observer, false⟩], setValue subscription r.made.length r.names⟩

/-- Ends the subscription of a registration. -/
def close (r : Registry) (id : Nat) : Registry :=
  { r with made := r.made.modify id fun x => { x with ended := true } }

/-- What a step in a world does to the registrations. -/
def follow (w : World) (r : Registry) : Step → Registry
  | .observe name subscription observer _ _ =>
    match w.named name with
    | .error _ => r
    | .ok target => if w.isObservable target then r.register target subscription observer else r
  | .unsubscribe subscription =>
    match valueOf? subscription r.names with
    | none => r
    | some id => r.close id
  | _ => r

/-- To take the first registration of the observer of a subscription from those of its instance is
to take the registration that was made with it, or nothing if that was ended before. -/
def Harmless (r : Registry) (subscription : String) : Prop :=
  ∀ id x, valueOf? subscription r.names = some id → r.made[id]? = some x →
    (r.observers x.target).erase x.observer = (r.close id).observers x.target

theorem observers_register_self (r : Registry) (target : Nat) (subscription observer : String) :
    (r.register target subscription observer).observers target =
      r.observers target ++ [observer] := by
  simp [register, observers, observer?]

theorem observers_register_of_ne (r : Registry) {target other : Nat} (hne : target ≠ other)
    (subscription observer : String) :
    (r.register target subscription observer).observers other = r.observers other := by
  simp [register, observers, observer?, hne]

theorem filterMap_modify {α β : Type} {g : α → Option β} {f : α → α} {l : List α} {n : Nat}
    (h : ∀ x, l[n]? = some x → g (f x) = g x) : (l.modify n f).filterMap g = l.filterMap g := by
  induction l generalizing n with
  | nil => simp
  | cons head rest ih =>
      cases n with
      | zero => simp [List.filterMap_cons, h head rfl]
      | succ n =>
          have hrest := ih fun x hx => h x (by simpa using hx)
          simp [List.filterMap_cons, hrest]

theorem observers_close_of_ne {r : Registry} {id other : Nat} {x : Registration}
    (hx : r.made[id]? = some x) (hne : x.target ≠ other) :
    (r.close id).observers other = r.observers other := by
  apply filterMap_modify
  intro y hy
  rw [hx] at hy
  cases hy
  simp [observer?, hne]

end Registry

end RecordMirror.Observation
