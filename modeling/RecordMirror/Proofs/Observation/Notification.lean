import RecordMirror.Observation.Run
/-!
What assignments call.  Observers that only note what they are told change nothing that other
observers depend on, so each broadcast of an assignment is noted by the observers that the instance
had before it, in their order.
-/

namespace RecordMirror.Observation

namespace World

/-! ### What operations leave alone -/

@[simp] theorem own?_hold (w : World) (held : Held) (target : Nat) (name : String) :
    (w.hold held).1.own? target name = w.own? target name :=
  rfl

@[simp] theorem own?_setHeld (w : World) (number : Nat) (held : Held) (target : Nat)
    (name : String) : (w.setHeld number held).own? target name = w.own? target name :=
  rfl

theorem heldAt_hold {w : World} {number : Nat} (held : Held) (hnumber : number < w.held.length) :
    (w.hold held).1.heldAt number = w.heldAt number := by
  show (w.held ++ [held]).getD number _ = w.held.getD number _
  simp [List.getD_eq_getElem?_getD, List.getElem?_append_left hnumber]

theorem heldAt_hold_self (w : World) (held : Held) :
    (w.hold held).1.heldAt (w.hold held).2 = held := by
  show (w.held ++ [held]).getD w.held.length _ = held
  simp [List.getD_eq_getElem?_getD]

theorem heldAt_setHeld_self {w : World} {number : Nat} (held : Held)
    (hnumber : number < w.held.length) : (w.setHeld number held).heldAt number = held := by
  show (w.held.set number held).getD number _ = held
  simp [List.getD_eq_getElem?_getD, hnumber]

theorem heldAt_setHeld_of_ne {w : World} {number other : Nat} (held : Held)
    (hne : number ≠ other) : (w.setHeld number held).heldAt other = w.heldAt other := by
  show (w.held.set number held).getD other _ = w.held.getD other _
  simp [List.getD_eq_getElem?_getD, List.getElem?_set_ne hne]

theorem own?_store_of_name_ne {w : World} {target other number : Nat} {name field : String}
    (hne : field ≠ name) : (w.store target name number).own? other field = w.own? other field := by
  simp only [store, modifyAttributes, own?, instance?, List.getElem?_modify]
  cases w.instances[other]? with
  | none => rfl
  | some i =>
      by_cases htarget : target = other
      · simp [htarget, valueOf?_setValue, hne]
      · simp [htarget]

theorem own?_store_of_target_ne {w : World} {target other number : Nat} {name field : String}
    (hne : target ≠ other) :
    (w.store target name number).own? other field = w.own? other field := by
  simp only [store, modifyAttributes, own?, instance?, List.getElem?_modify]
  simp [hne]

theorem own?_store_self {w : World} {target number : Nat} {name : String} {i : Instance}
    (hi : w.instance? target = some i) :
    (w.store target name number).own? target name = some number := by
  simp only [instance?] at hi
  simp [store, modifyAttributes, own?, instance?, hi, valueOf?_setValue]

/-! ### Observers that only note -/

/-- No observer takes steps of its own. -/
def OnlyNotes (w : World) : Prop :=
  ∀ observer reaction, valueOf? observer w.reactions = some reaction → reaction.steps = []

/-- A later world in which every instance has the observers it had, and nothing is known by another
name or subscription. -/
structure SameObservers (w after : World) : Prop where
  names : after.names = w.names
  subscriptions : after.subscriptions = w.subscriptions
  own : ∀ target, after.own? target observersName = w.own? target observersName
  size : w.held.length ≤ after.held.length
  held : ∀ number, number < w.held.length → after.heldAt number = w.heldAt number
  kinds : ∀ target, (after.instance? target).map Instance.kind =
    (w.instance? target).map Instance.kind

theorem SameObservers.refl (w : World) : SameObservers w w :=
  ⟨rfl, rfl, fun _ => rfl, Nat.le_refl _, fun _ _ => rfl, fun _ => rfl⟩

theorem SameObservers.trans {w middle after : World} (hfirst : SameObservers w middle)
    (hsecond : SameObservers middle after) : SameObservers w after where
  names := hsecond.names.trans hfirst.names
  subscriptions := hsecond.subscriptions.trans hfirst.subscriptions
  own target := (hsecond.own target).trans (hfirst.own target)
  size := Nat.le_trans hfirst.size hsecond.size
  held number hnumber :=
    (hsecond.held number (Nat.lt_of_lt_of_le hnumber hfirst.size)).trans
      (hfirst.held number hnumber)
  kinds target := (hsecond.kinds target).trans (hfirst.kinds target)

theorem sameObservers_hold (w : World) (held : Held) : SameObservers w (w.hold held).1 where
  names := rfl
  subscriptions := rfl
  own _ := rfl
  size := by simp [hold]
  held _ hnumber := heldAt_hold held hnumber
  kinds _ := rfl

theorem sameObservers_store {w : World} {target number : Nat} {name : String}
    (hname : name ≠ observersName) : SameObservers w (w.store target name number) where
  names := rfl
  subscriptions := rfl
  own _ := own?_store_of_name_ne hname.symm
  size := Nat.le_refl _
  held _ _ := rfl
  kinds other := by
    simp only [store, modifyAttributes, instance?, List.getElem?_modify]
    cases w.instances[other]? with
    | none => rfl
    | some i => by_cases htarget : target = other <;> simp [htarget]

/-- What holds the observers of an instance is held. -/
def SlotsHeld (w : World) : Prop :=
  ∀ target number, w.own? target observersName = some number → number < w.held.length

theorem SlotsHeld.sameObservers {w after : World} (h : SameObservers w after)
    (hslots : SlotsHeld w) : SlotsHeld after := by
  intro target number hown
  rw [h.own] at hown
  exact Nat.lt_of_lt_of_le (hslots target number hown) h.size

/-- The instance has exactly these observers. -/
def HasObservers (w : World) (target : Nat) (observers : List String) : Prop :=
  w.observersOf target = .ok (observers.map Item.observer)

theorem HasObservers.sameObservers {w after : World} {target : Nat} {observers : List String}
    (h : SameObservers w after) (hslots : SlotsHeld w)
    (hobservers : HasObservers w target observers) : HasObservers after target observers := by
  unfold HasObservers observersOf at hobservers ⊢
  rw [h.own]
  cases hown : w.own? target observersName with
  | none => simpa [hown] using hobservers
  | some number => simpa [hown, h.held number (hslots target number hown)] using hobservers

variable {depth : Nat}

/-- An observer that only notes notes the change, and that is all. -/
theorem tell_of_onlyNotes {w : World} (hdepth : 0 < depth) (hnotes : OnlyNotes w)
    (observer : String) (change : Change) :
    ∃ reactions, tell depth w observer change =
        ({ w.note (w.eventOf observer change) with reactions := reactions }, .ok ()) ∧
      OnlyNotes { w with reactions := reactions } := by
  unfold tell
  simp only
  split
  · rename_i steps left hreaction
    cases hnotes observer ⟨steps, left + 1⟩ hreaction
    cases depth with
    | zero => exact absurd hdepth (Nat.lt_irrefl 0)
    | succ depth =>
        refine ⟨setValue observer ⟨[], left⟩ w.reactions, rfl, ?_⟩
        intro other reaction hother
        simp only [valueOf?_setValue] at hother
        split at hother
        · cases hother
          rfl
        · exact hnotes other reaction hother
  · exact ⟨w.reactions, rfl, hnotes⟩

/-- A world after some observers have been told of something: they have noted it, in order. -/
structure Noted (w : World) (observers : List String) (after : World) : Prop where
  same : SameObservers w after
  onlyNotes : OnlyNotes after
  events : ∃ events : List Event,
    after.events = w.events ++ events ∧ events.map (·.observer) = observers

theorem Noted.trans {w middle after : World} {first second : List String}
    (hfirst : Noted w first middle) (hsecond : Noted middle second after) :
    Noted w (first ++ second) after := by
  obtain ⟨early, hearly, rfl⟩ := hfirst.events
  obtain ⟨late, hlate, rfl⟩ := hsecond.events
  refine ⟨hfirst.same.trans hsecond.same, hsecond.onlyNotes, early ++ late, ?_, by simp⟩
  rw [hlate, hearly, List.append_assoc]

theorem tellAll_of_onlyNotes (hdepth : 0 < depth) (change : Change) (observers : List String)
    {w : World} (hnotes : OnlyNotes w) :
    ∃ after, tellAll (tell depth) change (observers.map Item.observer) w = (after, .ok ()) ∧
      Noted w observers after := by
  induction observers generalizing w with
  | nil => exact ⟨w, rfl, .refl w, hnotes, [], by simp, rfl⟩
  | cons observer rest ih =>
      obtain ⟨reactions, htell, hmiddle⟩ := tell_of_onlyNotes hdepth hnotes observer change
      have hnoted : Noted w [observer]
          { w.note (w.eventOf observer change) with reactions := reactions } :=
        ⟨⟨rfl, rfl, fun _ => rfl, Nat.le_refl _, fun _ _ => rfl, fun _ => rfl⟩, hmiddle,
          [w.eventOf observer change], rfl, rfl⟩
      obtain ⟨after, hrest, hlater⟩ := ih hnoted.onlyNotes
      refine ⟨after, ?_, hnoted.trans hlater⟩
      rw [List.map_cons, tellAll, htell]
      exact hrest

/-- Each broadcast of an assignment is noted by the observers that the instance had before it. -/
theorem assignWith_of_onlyNotes (hdepth : 0 < depth) {w : World} {target : Nat} (number : Nat)
    {name : String} {observers : List String} (hname : name ≠ observersName)
    (hnotes : OnlyNotes w) (hslots : SlotsHeld w) (hobservers : HasObservers w target observers)
    (broadcasts : Nat) :
    ∃ after, assignWith (tell depth) target name number broadcasts w = (after, .ok ()) ∧
      Noted w (List.replicate broadcasts observers).flatten after := by
  induction broadcasts with
  | zero =>
      refine ⟨w.store target name number, rfl, sameObservers_store hname, hnotes, [], ?_, rfl⟩
      rw [List.append_nil]
      rfl
  | succ broadcasts ih =>
      obtain ⟨middle, hmiddle, hnoted⟩ := ih
      have hstill := hobservers.sameObservers hnoted.same hslots
      obtain ⟨after, hafter, hlater⟩ := tellAll_of_onlyNotes hdepth
        ⟨target, name, w.own? target name, number⟩ observers hnoted.onlyNotes
      refine ⟨after, ?_, ?_⟩
      · simp only [assignWith, hmiddle, broadcast]
        rw [hstill]
        exact hafter
      · rw [List.replicate_succ', List.flatten_append, List.flatten_singleton]
        exact hnoted.trans hlater

/-- An assignment of an attribute is noted by the observers the instance has, in their order and as
often as the class broadcasts it. -/
theorem assign_of_onlyNotes (hdepth : 0 < depth) {w : World} {target : Nat} {name : String}
    (value : Json) {observers : List String} (hname : name ≠ observersName)
    (hnotes : OnlyNotes w) (hslots : SlotsHeld w) (hobservers : HasObservers w target observers)
    {i : Instance} (hi : w.instance? target = some i) (hfrozen : i.kind.frozen = false) :
    ∃ after, w.assign (tell depth) target name value = (after, .ok ()) ∧
      Noted w (List.replicate i.kind.broadcasts observers).flatten after := by
  have hheld := sameObservers_hold w (Held.ofJson value)
  have hnotes' : OnlyNotes (w.hold (Held.ofJson value)).1 := hnotes
  obtain ⟨after, hafter, hnoted⟩ := assignWith_of_onlyNotes hdepth
    (w.hold (Held.ofJson value)).2 hname hnotes' (hslots.sameObservers hheld)
    (hobservers.sameObservers hheld hslots) i.kind.broadcasts
  refine ⟨after, ?_, ?_⟩
  · simp only [assign, hi, hfrozen]
    exact hafter
  · have hbegin : Noted w [] (w.hold (Held.ofJson value)).1 :=
      ⟨hheld, hnotes', [], by simp [hold], rfl⟩
    exact hbegin.trans hnoted

end World

end RecordMirror.Observation
