import Mathlib.Data.List.Induction
import RecordMirror.Proofs.Observation.Notification
import RecordMirror.Proofs.Observation.Registry
/-!
Registrations and the lists of observers that are told.  A registration is ended by the end of its
own subscription; the list of an instance is searched by observer instead.  The two agree along a
run as long as no end of a subscription takes from the list what it should not.
-/

namespace RecordMirror.Observation

namespace World

/-- The instance and the observers it is registered with in a world are those of a registry, but
for what ends of subscriptions have taken. -/
structure Tracked (w : World) (r : Registry) : Prop where
  onlyNotes : OnlyNotes w
  slots : SlotsHeld w
  lists : ∀ target number, w.own? target observersName = some number →
    ∃ observers : List String, w.heldAt number = .list (observers.map Item.observer)
  apart : ∀ target other number, w.own? target observersName = some number →
    w.own? other observersName = some number → target = other
  known : ∀ subscription id, valueOf? subscription r.names = some id → id < r.made.length
  registered : ∀ x ∈ r.made, ∃ number, w.own? x.target observersName = some number
  subscriptions : ∀ subscription, valueOf? subscription w.subscriptions =
    (valueOf? subscription r.names).bind fun id => r.made[id]?.bind fun x =>
      (w.own? x.target observersName).map fun number => ⟨number, x.observer⟩

theorem HasObservers.unique {w : World} {target : Nat} {first second : List String}
    (hfirst : HasObservers w target first) (hsecond : HasObservers w target second) :
    first = second := by
  unfold HasObservers at hfirst hsecond
  rw [hfirst, Except.ok.injEq] at hsecond
  refine (List.map_inj_right ?_).1 hsecond
  intro a b h
  cases h
  rfl

theorem hasObservers_iff_of_own {w : World} {r : Registry} (h : Tracked w r) {target number : Nat}
    (hown : w.own? target observersName = some number) {observers : List String} :
    HasObservers w target observers ↔ w.heldAt number = .list (observers.map Item.observer) := by
  obtain ⟨held, hheld⟩ := h.lists target number hown
  simp [HasObservers, observersOf, hown, hheld, Held.items]

theorem hasObservers_iff_of_none {w : World} {target : Nat}
    (hown : w.own? target observersName = none) {observers : List String} :
    HasObservers w target observers ↔ observers = [] := by
  simp [HasObservers, observersOf, hown]

theorem Tracked.sameObservers {w after : World} {r : Registry} (h : Tracked w r)
    (hsame : SameObservers w after) (hnotes : OnlyNotes after) : Tracked after r where
  onlyNotes := hnotes
  slots := h.slots.sameObservers hsame
  lists target number hown := by
    rw [hsame.own] at hown
    rw [hsame.held number (h.slots target number hown)]
    exact h.lists target number hown
  apart target other number htarget hother := by
    rw [hsame.own] at htarget hother
    exact h.apart target other number htarget hother
  known := h.known
  registered x hx := by
    rw [hsame.own]
    exact h.registered x hx
  subscriptions subscription := by
    simp only [hsame.subscriptions, hsame.own]
    exact h.subscriptions subscription

/-! ### What steps do to lists of observers -/

/-- A later world in which the observers of one instance have changed, and those of no other. -/
structure ChangesObservers (w after : World) (target : Nat) (change : List String → List String) :
    Prop where
  here : ∀ {observers}, HasObservers w target observers →
    HasObservers after target (change observers)
  elsewhere : ∀ {other observers}, target ≠ other → HasObservers w other observers →
    HasObservers after other observers

theorem Tracked.setHeld {w : World} {r : Registry} (h : Tracked w r) {target number : Nat}
    (hown : w.own? target observersName = some number) (observers : List String) :
    Tracked (w.setHeld number (.list (observers.map Item.observer))) r ∧
      ChangesObservers w (w.setHeld number (.list (observers.map Item.observer))) target
        fun _ => observers := by
  have hself :=
    heldAt_setHeld_self (.list (observers.map Item.observer)) (h.slots target number hown)
  have hafter : Tracked (w.setHeld number (.list (observers.map Item.observer))) r := by
    refine { h with slots := ?_, lists := ?_ }
    · intro other place hplace
      simpa [World.setHeld] using h.slots other place hplace
    · intro other place hplace
      by_cases hsame : number = place
      · subst hsame
        exact ⟨observers, hself⟩
      · rw [heldAt_setHeld_of_ne _ hsame]
        exact h.lists other place hplace
  refine ⟨hafter, fun _ => (hasObservers_iff_of_own hafter hown).2 hself, ?_⟩
  intro other others hne hothers
  cases hplace : w.own? other observersName with
  | none =>
      rw [hasObservers_iff_of_none hplace] at hothers
      exact (hasObservers_iff_of_none (by rw [own?_setHeld, hplace])).2 hothers
  | some place =>
      have happart : number ≠ place := by
        rintro rfl
        exact hne (h.apart target other number hown hplace)
      rw [hasObservers_iff_of_own h hplace] at hothers
      refine (hasObservers_iff_of_own hafter hplace).2 ?_
      rwa [heldAt_setHeld_of_ne _ happart]

/-- A later world in which an instance has got a list for its observers, with none in it. -/
structure MakesSlot (w after : World) (target number : Nat) : Prop where
  own : ∀ other, after.own? other observersName =
    if target = other then some number else w.own? other observersName
  fresh : w.held.length ≤ number ∧ number < after.held.length
  empty : after.heldAt number = .list []
  held : ∀ place, place < w.held.length → after.heldAt place = w.heldAt place
  subscriptions : after.subscriptions = w.subscriptions

theorem makesSlot_store {w : World} {target : Nat} {i : Instance}
    (hi : w.instance? target = some i) :
    MakesSlot w ((w.hold (.list [])).1.store target observersName w.held.length) target
      w.held.length where
  own other := by
    split
    · rename_i hsame
      subst hsame
      exact own?_store_self (w := (w.hold (.list [])).1) hi
    · rename_i hne
      exact own?_store_of_target_ne hne
  fresh := ⟨Nat.le_refl _, by simp [store, modifyAttributes, hold]⟩
  empty := heldAt_hold_self w (.list [])
  held _ hplace := heldAt_hold (.list []) hplace
  subscriptions := rfl

namespace MakesSlot

variable {w after : World} {r : Registry} {target number : Nat}

theorem apart (hmakes : MakesSlot w after target number) (h : Tracked w r) :
    ∀ first second place, after.own? first observersName = some place →
      after.own? second observersName = some place → first = second := by
  have hfresh : ∀ other, w.own? other observersName ≠ some number := by
    intro other hother
    exact absurd hmakes.fresh.1 (Nat.not_le.2 (h.slots other number hother))
  intro first second place hfirst hsecond
  rw [hmakes.own] at hfirst hsecond
  split at hfirst
  · cases hfirst
    split at hsecond
    · simp_all
    · exact absurd hsecond (hfresh second)
  · split at hsecond
    · cases hsecond
      exact absurd hfirst (hfresh first)
    · exact h.apart first second place hfirst hsecond

theorem tracked (hmakes : MakesSlot w after target number) (h : Tracked w r)
    (hown : w.own? target observersName = none) (hnotes : OnlyNotes after) :
    Tracked after r := by
  have hsame : ∀ x ∈ r.made, after.own? x.target observersName = w.own? x.target observersName := by
    intro x hx
    obtain ⟨place, hplace⟩ := h.registered x hx
    rw [hmakes.own, if_neg]
    rintro rfl
    rw [hown] at hplace
    cases hplace
  refine ⟨hnotes, ?_, ?_, hmakes.apart h, h.known, ?_, ?_⟩
  · intro other place hplace
    rw [hmakes.own] at hplace
    split at hplace
    · cases hplace
      exact hmakes.fresh.2
    · have := h.slots other place hplace
      have := hmakes.fresh
      omega
  · intro other place hplace
    rw [hmakes.own] at hplace
    split at hplace
    · cases hplace
      exact ⟨[], hmakes.empty⟩
    · rw [hmakes.held place (h.slots other place hplace)]
      exact h.lists other place hplace
  · intro x hx
    rw [hsame x hx]
    exact h.registered x hx
  · intro subscription
    rw [hmakes.subscriptions, h.subscriptions]
    cases valueOf? subscription r.names with
    | none => rfl
    | some id =>
        cases hx : r.made[id]? with
        | none => simp [hx]
        | some x => simp [hx, hsame x (List.mem_of_getElem? hx)]

theorem hasObservers (hmakes : MakesSlot w after target number) (h : Tracked w r)
    (hown : w.own? target observersName = none) (hnotes : OnlyNotes after) {other : Nat}
    {observers : List String} (hobservers : HasObservers w other observers) :
    HasObservers after other observers := by
  have hafter := hmakes.tracked h hown hnotes
  by_cases hsame : target = other
  · subst hsame
    rw [hasObservers_iff_of_none hown] at hobservers
    rw [hobservers, hasObservers_iff_of_own hafter (by rw [hmakes.own, if_pos rfl]), hmakes.empty]
    rfl
  · have hplace' : after.own? other observersName = w.own? other observersName := by
      rw [hmakes.own, if_neg hsame]
    cases hplace : w.own? other observersName with
    | none =>
        rw [hasObservers_iff_of_none hplace] at hobservers
        rwa [hasObservers_iff_of_none (hplace'.trans hplace)]
    | some place =>
        rw [hasObservers_iff_of_own h hplace] at hobservers
        rwa [hasObservers_iff_of_own hafter (hplace'.trans hplace),
          hmakes.held place (h.slots other place hplace)]

end MakesSlot

theorem withoutFirst_map_observer (observer : String) (observers : List String) :
    withoutFirst observer (observers.map Item.observer) =
      (observers.erase observer).map Item.observer := by
  induction observers with
  | nil => rfl
  | cons head rest ih =>
      by_cases hsame : head = observer
      · simp [withoutFirst, hsame]
      · simp [withoutFirst, hsame, ih]

variable {w : World} {r : Registry} {target : Nat}

theorem exists_instance_of_isObservable (h : w.isObservable target = true) :
    ∃ i, w.instance? target = some i := by
  cases hi : w.instance? target with
  | none => simp [isObservable, shown?, own?, hi] at h
  | some i => exact ⟨i, rfl⟩

theorem Tracked.observerList (h : Tracked w r) (hobservable : w.isObservable target = true) :
    ∃ middle number, w.observerList target = (middle, number) ∧ Tracked middle r ∧
      middle.own? target observersName = some number ∧
      ∀ other observers, HasObservers w other observers → HasObservers middle other observers := by
  obtain ⟨i, hi⟩ := exists_instance_of_isObservable hobservable
  unfold World.observerList
  cases hown : w.own? target observersName with
  | some number => exact ⟨w, number, rfl, h, hown, fun _ _ hobservers => hobservers⟩
  | none =>
      have hmakes := makesSlot_store hi
      refine ⟨_, _, rfl, hmakes.tracked h hown h.onlyNotes, ?_, ?_⟩
      · exact (hmakes.own target).trans (if_pos rfl)
      · intro other observers hobservers
        exact hmakes.hasObservers h hown h.onlyNotes hobservers

theorem Tracked.register (h : Tracked w r) {number : Nat}
    (hown : w.own? target observersName = some number) (subscription observer : String) :
    Tracked { w with subscriptions := setValue subscription ⟨number, observer⟩ w.subscriptions }
      (r.register target subscription observer) := by
  refine { h with known := ?_, registered := ?_, subscriptions := ?_ }
  · intro other id hid
    simp only [Registry.register, valueOf?_setValue, List.length_append, List.length_singleton]
      at hid ⊢
    split at hid
    · cases hid
      exact Nat.lt_succ_self _
    · exact Nat.lt_succ_of_lt (h.known other id hid)
  · intro x hx
    simp only [Registry.register, List.mem_append, List.mem_singleton] at hx
    rcases hx with hx | rfl
    · exact h.registered x hx
    · exact ⟨number, hown⟩
  · intro other
    have hold := h.subscriptions other
    simp only [Registry.register, valueOf?_setValue]
    split
    · rw [Option.bind_some, List.getElem?_append_right (Nat.le_refl _), Nat.sub_self]
      change some _ = (w.own? target observersName).map _
      rw [hown]
      rfl
    · rw [hold]
      cases hid : valueOf? other r.names with
      | none => rfl
      | some id =>
          rw [Option.bind_some, Option.bind_some, List.getElem?_append_left (h.known other id hid)]
          rfl

/-- A registration adds its observer to those of the instance, at the end. -/
theorem Tracked.observe (h : Tracked w r) (hobservable : w.isObservable target = true)
    (subscription observer : String) :
    ∃ after, w.observe target subscription observer = (after, .ok ()) ∧
      Tracked after (r.register target subscription observer) ∧
      ChangesObservers w after target (· ++ [observer]) := by
  obtain ⟨middle, number, hlist, hmiddle, hown, hkept⟩ := h.observerList hobservable
  obtain ⟨observers, hheld⟩ := hmiddle.lists target number hown
  obtain ⟨hextended, hchanges⟩ := hmiddle.setHeld hown (observers ++ [observer])
  refine ⟨_, ?_, hextended.register hown subscription observer, ?_, ?_⟩
  · simp only [World.observe, hobservable, if_true, hlist, extendHeld, hheld, List.map_append,
      List.map_cons, List.map_nil]
  · intro before hbefore
    have hobservers := (hasObservers_iff_of_own hmiddle hown).2 hheld
    rw [(hkept target before hbefore).unique hobservers]
    exact hchanges.here hobservers
  · intro other others hne hothers
    exact hchanges.elsewhere hne (hkept other others hothers)

/-- The end of a subscription takes the first registration of its observer from those of its
instance. -/
theorem Tracked.unsubscribe (h : Tracked w r) {subscription : String} {id : Nat} {x : Registration}
    (hid : valueOf? subscription r.names = some id) (hx : r.made[id]? = some x) :
    ∃ found, valueOf? subscription w.subscriptions = some found ∧
      Tracked (w.unsubscribe found) (r.close id) ∧
      ChangesObservers w (w.unsubscribe found) x.target (·.erase x.observer) := by
  obtain ⟨number, hown⟩ := h.registered x (List.mem_of_getElem? hx)
  obtain ⟨observers, hheld⟩ := h.lists x.target number hown
  obtain ⟨hafter, hchanges⟩ := h.setHeld hown (observers.erase x.observer)
  have hunsubscribe : w.unsubscribe ⟨number, x.observer⟩ =
      w.setHeld number (.list ((observers.erase x.observer).map Item.observer)) := by
    simp only [World.unsubscribe, hheld, withoutFirst_map_observer]
  refine ⟨⟨number, x.observer⟩, ?_, ?_, ?_, ?_⟩
  · simp [h.subscriptions, hid, hx, hown]
  · rw [hunsubscribe]
    refine { hafter with known := ?_, registered := ?_, subscriptions := ?_ }
    · intro other id' hid'
      simpa [Registry.close] using hafter.known other id' hid'
    · intro y hy
      obtain ⟨place, hplace⟩ := List.mem_iff_getElem?.1 hy
      simp only [Registry.close, List.getElem?_modify] at hplace
      cases hz : r.made[place]? with
      | none => simp [hz] at hplace
      | some z =>
          have htarget : z.target = y.target := by
            by_cases hsame : id = place <;> simp [hz, hsame] at hplace <;> rw [← hplace]
          rw [← htarget]
          exact hafter.registered z (List.mem_of_getElem? hz)
    · intro other
      rw [hafter.subscriptions]
      simp only [Registry.close, List.getElem?_modify]
      cases valueOf? other r.names with
      | none => rfl
      | some place =>
          cases hz : r.made[place]? with
          | none => simp [hz]
          | some z => by_cases hsame : id = place <;> simp [hz, hsame]
  · intro before hbefore
    have hobservers := (hasObservers_iff_of_own h hown).2 hheld
    rw [hunsubscribe, hbefore.unique hobservers]
    exact hchanges.here hobservers
  · intro other others hne hothers
    rw [hunsubscribe]
    exact hchanges.elsewhere hne hothers

/-! ### Runs -/

/-- The steps by which instances are subscribed to and assigned: the registration of an observer
that takes no steps of its own, the end of a subscription, and the assignment of an attribute. -/
def Subscribes : Step → Prop
  | .observe _ _ _ steps _ => steps = []
  | .unsubscribe _ => True
  | .set _ field _ => field ≠ observersName
  | _ => False

/-- A world after a step, and the registrations after it. -/
def next (depth : Nat) (state : World × Registry) (step : Step) : World × Registry :=
  ((({ state.1 with events := [] } : World).takeStep (tell depth) step).1,
    state.2.follow { state.1 with events := [] } step)

/-- A world after some steps, and the registrations after them. -/
def reached (depth : Nat) (w : World) (steps : List Step) : World × Registry :=
  steps.foldl (next depth) (w, {})

/-- Every instance has the observers that are registered with it, in the order of their
registrations. -/
def Conforms (state : World × Registry) : Prop :=
  ∀ target, HasObservers state.1 target (state.2.observers target)

theorem reached_concat (depth : Nat) (w : World) (done : List Step) (step : Step) :
    reached depth w (done ++ [step]) = next depth (reached depth w done) step := by
  rw [reached, List.foldl_append]
  rfl

variable {depth : Nat}

theorem onlyNotes_introduce {observer : String} {steps : List Step} (h : OnlyNotes w)
    (hsteps : steps = []) (times : Nat) : OnlyNotes (w.introduce observer steps times) := by
  unfold introduce
  split
  · exact h
  · intro other reaction hreaction
    simp only [valueOf?_setValue] at hreaction
    split at hreaction
    · cases hreaction
      exact hsteps
    · exact h other reaction hreaction

theorem sameObservers_introduce (observer : String) (steps : List Step) (times : Nat) :
    SameObservers w (w.introduce observer steps times) := by
  unfold introduce
  split
  · exact .refl w
  · exact ⟨rfl, rfl, fun _ => rfl, Nat.le_refl _, fun _ _ => rfl, fun _ => rfl⟩

theorem isObservable_introduce (observer : String) (steps : List Step) (times : Nat) :
    (w.introduce observer steps times).isObservable target = w.isObservable target := by
  unfold introduce
  split <;> rfl

theorem HasObservers.exists (h : Tracked w r) (target : Nat) :
    ∃ observers, HasObservers w target observers := by
  cases hown : w.own? target observersName with
  | none => exact ⟨[], (hasObservers_iff_of_none hown).2 rfl⟩
  | some number =>
      obtain ⟨observers, hheld⟩ := h.lists target number hown
      exact ⟨observers, (hasObservers_iff_of_own h hown).2 hheld⟩

/-- What a step does to the observers that the instances have. -/
inductive StepOutcome (w after : World) (r : Registry) : Step → Prop
  | kept {step : Step} (registry : r.follow w step = r)
      (unnamed : ∀ subscription, step = .unsubscribe subscription →
        valueOf? subscription r.names = none)
      (same : ∀ target observers, HasObservers w target observers →
        HasObservers after target observers) : StepOutcome w after r step
  | registered {name subscription observer : String} {steps : List Step} {times : Nat}
      (target : Nat)
      (registry : r.follow w (.observe name subscription observer steps times) =
        r.register target subscription observer)
      (changes : ChangesObservers w after target (· ++ [observer])) :
      StepOutcome w after r (.observe name subscription observer steps times)
  | ended {subscription : String} {id : Nat} {x : Registration}
      (name : valueOf? subscription r.names = some id) (entry : r.made[id]? = some x)
      (registry : r.follow w (.unsubscribe subscription) = r.close id)
      (changes : ChangesObservers w after x.target (·.erase x.observer)) :
      StepOutcome w after r (.unsubscribe subscription)

theorem withInstance_of_named {name : String} (hname : w.named name = .ok target)
    (action : Nat → World × Except Fault Json) : w.withInstance name action = action target := by
  simp only [withInstance, hname]

theorem withInstance_of_unknown {name : String} {fault : Fault}
    (hname : w.named name = .error fault) (action : Nat → World × Except Fault Json) :
    w.withInstance name action = (w, .error fault) := by
  simp only [withInstance, hname]

theorem assign_sameObservers (hdepth : 0 < depth) (h : Tracked w r) (target : Nat) (field : String)
    (value : Json) (hfield : field ≠ observersName) :
    SameObservers w (w.assign (tell depth) target field value).1 ∧
      OnlyNotes (w.assign (tell depth) target field value).1 := by
  cases hi : w.instance? target with
  | none =>
      have hassign : w.assign (tell depth) target field value = (w, .ok ()) := by
        simp only [assign, hi]
      rw [hassign]
      exact ⟨.refl w, h.onlyNotes⟩
  | some i =>
      cases hfrozen : i.kind.frozen with
      | true =>
          have hassign : w.assign (tell depth) target field value =
              (w, .error (.frozenAssignment field)) := by
            simp only [assign, hi, hfrozen, if_true]
          rw [hassign]
          exact ⟨.refl w, h.onlyNotes⟩
      | false =>
          obtain ⟨observers, hobservers⟩ := HasObservers.exists h target
          obtain ⟨after, hafter, hnoted⟩ := assign_of_onlyNotes hdepth value hfield h.onlyNotes
            h.slots hobservers hi hfrozen
          rw [hafter]
          exact ⟨hnoted.same, hnoted.onlyNotes⟩

theorem withoutValue_fst (outcome : World × Except Fault Unit) :
    (withoutValue outcome).1 = outcome.1 := by
  obtain ⟨after, result⟩ := outcome
  cases result <;> rfl

theorem observe_of_not_isObservable (h : w.isObservable target = false)
    (subscription observer : String) : w.observe target subscription observer =
      (w, .error (.notObservable (w.kindOf target))) := by
  simp [observe, h]

theorem takeStep_set (tell : Tell) (w : World) (name field : String) (value : Json) :
    w.takeStep tell (.set name field value) =
      w.withInstance name fun target => withoutValue (w.assign tell target field value) :=
  rfl

theorem takeStep_observe (tell : Tell) (w : World) (name subscription observer : String)
    (steps : List Step) (times : Nat) :
    w.takeStep tell (.observe name subscription observer steps times) =
      w.withInstance name fun target =>
        withoutValue ((w.introduce observer steps times).observe target subscription observer) :=
  rfl

/-- A step in a tracked world keeps it tracked. -/
theorem Tracked.takeStep (hdepth : 0 < depth) (h : Tracked w r) {step : Step}
    (hstep : Subscribes step) :
    Tracked (w.takeStep (tell depth) step).1 (r.follow w step) ∧
      StepOutcome w (w.takeStep (tell depth) step).1 r step := by
  cases step with
  | set name field value =>
      rw [takeStep_set]
      cases hname : w.named name with
      | error fault =>
          rw [withInstance_of_unknown hname]
          exact ⟨h, .kept rfl nofun fun _ _ => id⟩
      | ok target =>
          rw [withInstance_of_named hname, withoutValue_fst]
          obtain ⟨hlater, hnotes⟩ := assign_sameObservers hdepth h target field value hstep
          refine ⟨h.sameObservers hlater hnotes, .kept rfl nofun ?_⟩
          intro other observers hobservers
          exact hobservers.sameObservers hlater h.slots
  | observe name subscription observer steps times =>
      rw [takeStep_observe]
      cases hname : w.named name with
      | error fault =>
          have hregistry : r.follow w (.observe name subscription observer steps times) = r := by
            simp only [Registry.follow, hname]
          rw [hregistry, withInstance_of_unknown hname]
          exact ⟨h, .kept hregistry nofun fun _ _ => id⟩
      | ok target =>
          have hlater := sameObservers_introduce (w := w) observer steps times
          have hintroduced :=
            h.sameObservers hlater (onlyNotes_introduce h.onlyNotes hstep times)
          rw [withInstance_of_named hname, withoutValue_fst]
          by_cases hobservable : w.isObservable target = true
          · have hregistry : r.follow w (.observe name subscription observer steps times) =
                r.register target subscription observer := by
              simp only [Registry.follow, hname, hobservable, if_true]
            have hintroducedObservable :=
              (isObservable_introduce observer steps times).trans hobservable
            obtain ⟨after, hafter, htracked, hchanges⟩ :=
              hintroduced.observe hintroducedObservable subscription observer
            rw [hregistry, hafter]
            refine ⟨htracked, .registered target hregistry ⟨?_, ?_⟩⟩
            · intro observers hobservers
              exact hchanges.here (hobservers.sameObservers hlater h.slots)
            · intro other observers hne hobservers
              exact hchanges.elsewhere hne (hobservers.sameObservers hlater h.slots)
          · have hregistry : r.follow w (.observe name subscription observer steps times) = r := by
              simp only [Registry.follow, hname, hobservable, Bool.false_eq_true, if_false]
            have hrefused := (isObservable_introduce observer steps times).trans
              (eq_false_of_ne_true hobservable)
            rw [hregistry, observe_of_not_isObservable hrefused]
            refine ⟨hintroduced, .kept hregistry nofun ?_⟩
            intro other observers hobservers
            exact hobservers.sameObservers hlater h.slots
  | unsubscribe subscription =>
      cases hid : valueOf? subscription r.names with
      | none =>
          have hregistry : r.follow w (.unsubscribe subscription) = r := by
            simp only [Registry.follow, hid]
          have hunknown : valueOf? subscription w.subscriptions = none := by
            rw [h.subscriptions, hid]
            rfl
          rw [hregistry]
          simp only [World.takeStep, hunknown]
          refine ⟨h, .kept hregistry ?_ fun _ _ => id⟩
          rintro _ ⟨⟩
          exact hid
      | some id =>
          have hregistry : r.follow w (.unsubscribe subscription) = r.close id := by
            simp only [Registry.follow, hid]
          have hx := List.getElem?_eq_getElem (h.known subscription id hid)
          obtain ⟨found, hfound, htracked, hchanges⟩ := h.unsubscribe hid hx
          rw [hregistry]
          simp only [World.takeStep, hfound]
          exact ⟨htracked, .ended hid hx hregistry hchanges⟩
  | new | get | delete | append | isObservable | isObservableClass | isObservableValue
  | observeClass | observeValue | fail => exact absurd hstep id

/-- Nothing was ever registered with the instances of the world. -/
structure Unobserved (w : World) : Prop where
  slots : ∀ target, w.own? target observersName = none
  subscriptions : w.subscriptions = []
  reactions : w.reactions = []

theorem Unobserved.tracked (h : Unobserved w) : Tracked w {} where
  onlyNotes observer reaction hreaction := by
    rw [h.reactions] at hreaction
    cases hreaction
  slots target number hown := by
    rw [h.slots] at hown
    cases hown
  lists target number hown := by
    rw [h.slots] at hown
    cases hown
  apart target other number hown _ := by
    rw [h.slots] at hown
    cases hown
  known subscription id hid := by cases hid
  registered x hx := by cases hx
  subscriptions subscription := by
    rw [h.subscriptions]
    rfl

theorem Tracked.next (hdepth : 0 < depth) {state : World × Registry} (h : Tracked state.1 state.2)
    {step : Step} (hstep : Subscribes step) :
    Tracked (World.next depth state step).1 (World.next depth state step).2 ∧
      StepOutcome { state.1 with events := [] } (World.next depth state step).1 state.2 step := by
  have hsame : SameObservers state.1 { state.1 with events := [] } :=
    ⟨rfl, rfl, fun _ => rfl, Nat.le_refl _, fun _ _ => rfl, fun _ => rfl⟩
  exact (h.sameObservers hsame h.onlyNotes).takeStep hdepth hstep

/-- In every run from a world without observers the world is tracked. -/
theorem Unobserved.reached (hdepth : 0 < depth) (h : Unobserved w) {done : List Step}
    (hdone : ∀ step ∈ done, Subscribes step) :
    Tracked (World.reached depth w done).1 (World.reached depth w done).2 := by
  induction done using List.reverseRecOn with
  | nil => exact h.tracked
  | append_singleton done step ih =>
      rw [reached_concat]
      have hbefore := ih fun s hs => hdone s (List.mem_append_left _ hs)
      exact (hbefore.next hdepth (hdone step (by simp))).1

/-- A step keeps every instance with the observers that are registered with it exactly if it is no
harmful end of a subscription. -/
theorem conforms_next_iff (hdepth : 0 < depth) {state : World × Registry}
    (h : Tracked state.1 state.2) (hconforms : Conforms state) {step : Step}
    (hstep : Subscribes step) :
    Conforms (next depth state step) ↔
      ∀ subscription, step = .unsubscribe subscription → state.2.Harmless subscription := by
  have hnext : (next depth state step).2 = state.2.follow { state.1 with events := [] } step := rfl
  rcases state with ⟨w, r⟩
  cases (h.next hdepth hstep).2 with
  | kept hregistry hunnamed hsame =>
      refine iff_of_true ?_ ?_
      · intro target
        rw [hnext, hregistry]
        exact hsame target _ (hconforms target)
      · intro subscription hstep id x hid
        rw [hunnamed subscription hstep] at hid
        cases hid
  | registered target hregistry hchanges =>
      refine iff_of_true ?_ nofun
      intro other
      rw [hnext, hregistry]
      by_cases hsame : target = other
      · subst hsame
        rw [Registry.observers_register_self]
        exact hchanges.here (hconforms target)
      · rw [Registry.observers_register_of_ne r hsame]
        exact hchanges.elsewhere hsame (hconforms other)
  | @ended subscription id x hid hx hregistry hchanges =>
      have hhere := hchanges.here (hconforms x.target)
      constructor
      · rintro hafter _ ⟨⟩ id' x' hid' hx'
        rw [hid] at hid'
        cases hid'
        rw [hx] at hx'
        cases hx'
        have hclosed := hafter x.target
        rw [hnext, hregistry] at hclosed
        exact hhere.unique hclosed
      · intro hharmless other
        rw [hnext, hregistry]
        by_cases hsame : x.target = other
        · subst hsame
          rw [← hharmless subscription rfl id x hid hx]
          exact hhere
        · rw [Registry.observers_close_of_ne hx hsame]
          exact hchanges.elsewhere hsame (hconforms other)

/-! ### Reports -/

theorem perform_append (depth : Nat) (w : World) (r : Registry) (done rest : List Step) :
    perform depth w (done ++ rest) =
      perform depth w done ++ perform depth (done.foldl (next depth) (w, r)).1 rest := by
  induction done generalizing w r with
  | nil => rfl
  | cons step done ih =>
      rw [List.cons_append, perform, perform]
      simp only
      rw [ih _ (next depth (w, r) step).2]
      rfl

/-- An assignment is reported to be noted by the observers that the instance has. -/
theorem perform_set (hdepth : 0 < depth) (h : Tracked w r) {name field : String} {i : Instance}
    (hname : w.named name = .ok target) (hi : w.instance? target = some i)
    (hfrozen : i.kind.frozen = false) (hfield : field ≠ observersName) (value : Json)
    {observers : List String} (hobservers : HasObservers w target observers) :
    ∃ report, perform depth w [.set name field value] = [report] ∧ report.result = .ok .null ∧
      report.events.map (·.observer) = (List.replicate i.kind.broadcasts observers).flatten := by
  have hname' : ({ w with events := [] } : World).named name = .ok target := hname
  have hi' : ({ w with events := [] } : World).instance? target = some i := hi
  obtain ⟨after, hafter, hnoted⟩ := assign_of_onlyNotes (w := { w with events := [] }) hdepth value
    hfield h.onlyNotes h.slots hobservers hi' hfrozen
  obtain ⟨events, hevents, hnoters⟩ := hnoted.events
  refine ⟨⟨.ok .null, after.events, after⟩, ?_, rfl, ?_⟩
  · simp only [perform, takeStep_set, withInstance_of_named hname', hafter, withoutValue]
  · rw [hevents]
    exact hnoters

/-- At each moment of a run, an assignment is told to the observers that the instance has, in order
and as often as its class broadcasts it.  They are at all moments those of the registrations whose
subscriptions were not ended, in the order of the registrations, exactly if each end of a
subscription is harmless. -/
theorem subscriptions_independent_iff (hdepth : 0 < depth) (hw : Unobserved w)
    {steps : List Step} (hsteps : ∀ step ∈ steps, Subscribes step) :
    ((∀ done, done <+: steps → Conforms (reached depth w done)) ↔
        ∀ done subscription, done ++ [.unsubscribe subscription] <+: steps →
          (reached depth w done).2.Harmless subscription) ∧
      ∀ done, done <+: steps → ∀ name field value target i,
        (reached depth w done).1.named name = .ok target →
        (reached depth w done).1.instance? target = some i → i.kind.frozen = false →
        field ≠ observersName →
        ∃ report observers, perform depth w (done ++ [.set name field value]) =
            perform depth w done ++ [report] ∧ report.result = .ok .null ∧
          HasObservers (reached depth w done).1 target observers ∧
          report.events.map (·.observer) =
            (List.replicate i.kind.broadcasts observers).flatten := by
  have hearlier : ∀ done, done <+: steps → ∀ step ∈ done, Subscribes step :=
    fun done hdone step hstep => hsteps step (hdone.subset hstep)
  refine ⟨⟨?_, ?_⟩, ?_⟩
  · intro hconforms done subscription hdone
    have hbefore : done <+: steps := (List.prefix_append done _).trans hdone
    have hafter := hconforms _ hdone
    rw [reached_concat] at hafter
    have hstep : Subscribes (.unsubscribe subscription) := trivial
    exact (conforms_next_iff hdepth (hw.reached hdepth (hearlier done hbefore))
      (hconforms done hbefore) hstep).1 hafter _ rfl
  · intro hharmless done
    induction done using List.reverseRecOn with
    | nil =>
        intro _ target
        exact (hasObservers_iff_of_none (hw.slots target)).2 rfl
    | append_singleton done step ih =>
        intro hdone
        have hbefore : done <+: steps := (List.prefix_append done _).trans hdone
        rw [reached_concat]
        refine (conforms_next_iff hdepth (hw.reached hdepth (hearlier done hbefore)) (ih hbefore)
          (hearlier _ hdone step (by simp))).2 ?_
        rintro subscription rfl
        exact hharmless done subscription hdone
  · intro done hdone name field value target i hname hi hfrozen hfield
    have htracked := hw.reached hdepth (hearlier done hdone)
    obtain ⟨observers, hobservers⟩ := HasObservers.exists htracked target
    obtain ⟨report, hreport, hresult, hevents⟩ :=
      perform_set hdepth htracked hname hi hfrozen hfield value hobservers
    refine ⟨report, observers, ?_, hresult, hobservers, hevents⟩
    rw [perform_append depth w {} done, ← reached, hreport]

/-- An observable class with one field. -/
def counter : ClassDecl :=
  ⟨"Counter", [("value", .integer 0)], true, false, none⟩

theorem subscriptions_independent_iff_counter :
    0 < 1 ∧
      Unobserved (reached 1 { classes := Class.declare [counter] } [.new "Counter" "c" []]).1 ∧
      (∀ step ∈ [Step.observe "c" "first" "A" [] 1, .unsubscribe "first"], Subscribes step) ∧
      ((∀ done, done <+: [Step.observe "c" "first" "A" [] 1, .unsubscribe "first"] →
          Conforms (reached 1 (reached 1 { classes := Class.declare [counter] }
            [.new "Counter" "c" []]).1 done)) ↔
        ∀ done subscription, done ++ [.unsubscribe subscription] <+:
          [Step.observe "c" "first" "A" [] 1, .unsubscribe "first"] →
          (reached 1 (reached 1 { classes := Class.declare [counter] }
            [.new "Counter" "c" []]).1 done).2.Harmless subscription) := by
  have hworld :
      Unobserved (reached 1 { classes := Class.declare [counter] } [.new "Counter" "c" []]).1 := by
    refine ⟨?_, rfl, rfl⟩
    intro target
    cases target with
    | zero => rfl
    | succ target => rfl
  have hsteps : ∀ step ∈ [Step.observe "c" "first" "A" [] 1, .unsubscribe "first"],
      Subscribes step := by
    simp [Subscribes]
  exact ⟨by decide, hworld, hsteps, (subscriptions_independent_iff (by decide) hworld hsteps).1⟩

/-- The second call of one function ends a registration that another function was given for. -/
theorem second_unsubscribe_ends_another :
    (run [counter] [.new "Counter" "c" [], .observe "c" "first" "A" [] 1,
        .observe "c" "second" "A" [] 1, .unsubscribe "first", .unsubscribe "first",
        .set "c" "value" (.integer 1)]).map (fun report => report.events.map (·.observer)) =
        [[], [], [], [], [], []] ∧
      (reached 2 { classes := Class.declare [counter] } [.new "Counter" "c" [],
        .observe "c" "first" "A" [] 1, .observe "c" "second" "A" [] 1, .unsubscribe "first",
        .unsubscribe "first"]).2.observers 0 = ["A"] := by
  decide +kernel

example : (run [counter] [.new "Counter" "c" [], .observe "c" "first" "A" [] 1,
    .observe "c" "second" "B" [] 1, .observe "c" "third" "A" [] 1, .unsubscribe "third",
    .set "c" "value" (.integer 1)]).map (fun report => report.events.map (·.observer)) =
      [[], [], [], [], [], ["B", "A"]] := by
  decide +kernel

end World

end RecordMirror.Observation
