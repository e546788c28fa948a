import RecordMirror.Proofs.Observation.Frames
import RecordMirror.Proofs.Observation.Subscription
/-!
Assignments at all moments of a run, be they steps of the script or of an observer.  A value is in
its place before anyone is told of it, and is told to the observers that the instance has then.
-/

namespace RecordMirror.Observation

namespace World

/-- A later world in which an attribute of an instance holds something new, under the next number,
and nothing else is different. -/
structure Stores (w : World) (target : Nat) (name : String) (held : Held) (after : World) :
    Prop where
  own : after.own? target name = some w.held.length
  held : after.heldAt w.held.length = held
  others : ∀ other field, ¬(target = other ∧ name = field) →
    after.own? other field = w.own? other field
  earlier : ∀ number, number < w.held.length → after.heldAt number = w.heldAt number
  names : after.names = w.names
  subscriptions : after.subscriptions = w.subscriptions
  reactions : after.reactions = w.reactions
  events : after.events = w.events

theorem stores_put {w : World} {target : Nat} {i : Instance} (hi : w.instance? target = some i)
    (name : String) (held : Held) : Stores w target name held (w.put target name held) where
  own := own?_put hi
  held := heldAt_put_self w target name held
  others _ _ hne := own?_put_of_ne hne
  earlier _ hnumber := heldAt_put hnumber
  names := rfl
  subscriptions := rfl
  reactions := rfl
  events := rfl

variable {w : World} {target : Nat}

theorem ok_of_withoutValue_ok {outcome : World × Except Fault Unit} {value : Json}
    (h : (withoutValue outcome).2 = .ok value) : outcome.2 = .ok () := by
  obtain ⟨after, fault | _⟩ := outcome
  · cases h
  · rfl

theorem observersOf_of_list {number : Nat} {items : List Item}
    (hown : w.own? target observersName = some number) (hheld : w.heldAt number = .list items) :
    w.observersOf target = .ok items := by
  simp only [observersOf, hown, hheld, Held.items]

/-- A new registration is the last of the list from then on. -/
theorem observersOf_observe (hsound : Sound w) {subscription observer : String}
    (hok : (w.observe target subscription observer).2 = .ok ()) :
    ∃ observers, w.observersOf target = .ok observers ∧
      (w.observe target subscription observer).1.observersOf target =
        .ok (observers ++ [.observer observer]) := by
  rcases observe_cases w target subscription observer with
    ⟨fault, -, hobserve⟩ | ⟨number, items, hown, hheld, hobserve⟩ | ⟨hobservable, hown, hobserve⟩
  · rw [hobserve] at hok
    cases hok
  · refine ⟨items, observersOf_of_list hown hheld, ?_⟩
    have hset := heldAt_setHeld_self (.list (items ++ [.observer observer])) (hsound.held hown)
    rw [hobserve]
    exact observersOf_of_list (w := w.setHeld number _) hown hset
  · obtain ⟨i, hi⟩ := exists_instance_of_isObservable hobservable
    have hstores := stores_put hi observersName (.list [.observer observer])
    refine ⟨[], by simp only [observersOf, hown], ?_⟩
    rw [hobserve]
    exact observersOf_of_list (w := w.put target observersName _) hstores.own hstores.held

/-- The end of a registration takes it from the list from then on. -/
theorem observersOf_unsubscribe (hsound : Sound w) {found : Subscription} {items : List Item}
    (hown : w.own? target observersName = some found.list)
    (hheld : w.heldAt found.list = .list items) :
    (w.unsubscribe found).observersOf target = .ok (withoutFirst found.observer items) := by
  have hset := heldAt_setHeld_self (.list (withoutFirst found.observer items)) (hsound.held hown)
  simp only [World.unsubscribe, hheld]
  exact observersOf_of_list (w := w.setHeld found.list _) hown hset

end World

namespace Moment

/-- The step assigns a value to an attribute of an instance. -/
def Assigns (m : Moment) (target : Nat) (field : String) (value : Json) : Prop :=
  ∃ name, m.step = .set name field value ∧ m.world.named name = .ok target

/-- The value is stored, and then the observers that the instance has are told that the attribute
held something else before, or nothing, and now holds the value. -/
inductive Tells (tell : Tell) (m : Moment) (target : Nat) (field : String) (value : Json) : Prop
  | unlistable {stored : World} {fault : Fault}
      (stores : m.world.Stores target field (Held.ofJson value) stored)
      (list : m.world.observersOf target = .error fault)
      (outcome : m.world.takeStep tell m.step = (stored, .error fault))
      (calls : m.world.callsOf tell m.step = [])
  | round {stored : World} {observers : List Item} {outcome : World × Except Fault Unit}
      (stores : m.world.Stores target field (Held.ofJson value) stored)
      (list : m.world.observersOf target = .ok observers)
      (outcome_eq : m.world.takeStep tell m.step = World.withoutValue outcome)
      (round : Round tell ⟨target, field, m.world.own? target field, m.world.held.length⟩ observers
        stored (m.world.callsOf tell m.step) outcome)

variable {leaves : List Leave} {m : Moment} {target : Nat} {field : String} {value : Json}
  {i : Instance}

theorem Assigns.takeStep_eq (h : m.Assigns target field value) (tell : Tell) :
    m.world.takeStep tell m.step =
        World.withoutValue (m.world.assign tell target field value) ∧
      m.world.callsOf tell m.step = m.world.assignCalls tell target field value := by
  obtain ⟨name, hstep, hname⟩ := h
  rw [hstep, World.takeStep_set, World.withInstance_of_named hname]
  simp only [World.callsOf, hname, and_self]

theorem Assigns.refused (h : m.Assigns target field value)
    (hi : m.world.instance? target = some i) (hfrozen : i.kind.frozen = true) (tell : Tell) :
    m.world.takeStep tell m.step = (m.world, .error (.frozenAssignment field)) ∧
      m.world.callsOf tell m.step = [] := by
  obtain ⟨houtcome, hcalls⟩ := h.takeStep_eq tell
  obtain ⟨hassign, hnone⟩ := World.assign_of_frozen tell field hi hfrozen value
  rw [houtcome, hcalls, hassign, hnone]
  exact ⟨rfl, rfl⟩

theorem Assigns.tells (h : m.Assigns target field value) (hsound : m.world.Sound)
    (hi : m.world.instance? target = some i) (hfrozen : i.kind.frozen = false)
    (honce : i.kind.broadcasts = 1) (hfield : field ≠ observersName) (tell : Tell) :
    m.Tells tell target field value := by
  obtain ⟨houtcome, hcalls⟩ := h.takeStep_eq tell
  obtain ⟨hassign, hround⟩ := World.assign_of_once tell field hi hfrozen honce value
  have hslot : ∀ number, m.world.own? target observersName = some number →
      number < m.world.held.length := fun _ => hsound.held
  have hobservers := World.observersOf_put hfield hslot (Held.ofJson value)
  have hstores := World.stores_put hi field (Held.ofJson value)
  rw [hassign] at houtcome
  rw [hround] at hcalls
  simp only [World.broadcast, World.broadcastCalls, hobservers] at houtcome hcalls
  cases hlist : m.world.observersOf target with
  | error fault =>
      rw [hlist] at houtcome hcalls
      exact .unlistable hstores hlist houtcome hcalls
  | ok observers =>
      rw [hlist] at houtcome hcalls
      refine .round hstores hlist houtcome ?_
      rw [hcalls]
      exact World.round_tellAll _ _ observers _

/-- Once its value is stored, an assignment consists of its calls. -/
theorem Assigns.traced (h : m.Assigns target field value)
    (hi : m.world.instance? target = some i) (hfrozen : i.kind.frozen = false) :
    Traced (World.tell m.depth) (m.world.put target field (Held.ofJson value)) m.calls
      m.outcome := by
  obtain ⟨houtcome, hcalls⟩ := h.takeStep_eq (World.tell m.depth)
  unfold Moment.outcome Moment.calls
  rw [houtcome, hcalls]
  exact (World.traced_assign _ hi hfrozen value).withoutValue

theorem Assigns.orderly_put (h : m.Assigns target field value) (hm : m.Regular leaves) :
    World.Orderly leaves m.depth (m.world.put target field (Held.ofJson value)) := by
  obtain ⟨name, hstep, hname⟩ := h
  exact hm.world.effect hm.step (hstep ▸ .stored hname)

/-- The attribute holds the value afterwards if the observers do not let it hold another. -/
theorem Assigns.stays (h : m.Assigns target field value) (hm : m.Regular leaves)
    (hi : m.world.instance? target = some i) (hfrozen : i.kind.frozen = false)
    (hlater : ∀ later, m.LeadsTo later → ¬ later.world.Rebinds target field later.step) :
    m.outcome.1.own? target field = some m.world.held.length := by
  have hstores := World.stores_put hi field (Held.ofJson value)
  have hkept := keeps_of_traced (P := World.Binds target field (some m.world.held.length))
    (fun _ _ _ hw => ⟨hw.exists_instance, hw.own⟩) ?_ (Nat.le_refl _) (h.traced hi hfrozen)
    (h.orderly_put hm) ⟨World.lt_length_of_own? hstores.own, hstores.own⟩
  · exact hkept.after.2.own
  · intro later hleads _ _ hbinds after heffect
    exact hbinds.effect heffect (hlater later hleads)

/-- The value is afterwards what it was if the observers do not touch the attribute. -/
theorem Assigns.unchanged (h : m.Assigns target field value) (hm : m.Regular leaves)
    (hi : m.world.instance? target = some i) (hfrozen : i.kind.frozen = false)
    (hlater : ∀ later, m.LeadsTo later → ¬ later.world.Touches target field later.step) :
    m.outcome.1.heldAt m.world.held.length = Held.ofJson value := by
  have hstores := World.stores_put hi field (Held.ofJson value)
  have hkept := keeps_of_traced
    (P := World.Holds target field m.world.held.length (Held.ofJson value))
    (fun _ _ _ hw => ⟨hw.own, hw.held⟩) ?_ (Nat.le_refl _) (h.traced hi hfrozen)
    (h.orderly_put hm) ⟨hstores.own, hstores.held⟩
  · exact hkept.after.2.held
  · intro later hleads _ horderly hholds after heffect
    exact hholds.effect horderly.sound heffect (hlater later hleads)

/-- A registration that is made is the last of the list from then on. -/
theorem Regular.registers (hm : m.Regular leaves) {name subscription observer : String}
    {steps : List Step} {times : Nat}
    (hstep : m.step = .observe name subscription observer steps times)
    (hname : m.world.named name = .ok target) (hok : m.outcome.2 = .ok .null) :
    ∃ observers, m.world.observersOf target = .ok observers ∧
      m.outcome.1.observersOf target = .ok (observers ++ [.observer observer]) := by
  have houtcome : m.outcome = World.withoutValue
      ((m.world.introduce observer steps times).observe target subscription observer) := by
    unfold Moment.outcome
    rw [hstep, World.takeStep_observe, World.withInstance_of_named hname]
  have hsound := hm.world.sound.introduce observer steps times
  obtain ⟨observers, hbefore, hafter⟩ :=
    World.observersOf_observe hsound (World.ok_of_withoutValue_ok (houtcome ▸ hok))
  refine ⟨observers, ?_, ?_⟩
  · simpa [World.observersOf] using hbefore
  · rw [houtcome, World.withoutValue_fst]
    exact hafter

/-- A registration that is ended is not in the list from then on. -/
theorem Regular.unregisters (hm : m.Regular leaves) {subscription : String} {found : Subscription}
    {items : List Item} (hstep : m.step = .unsubscribe subscription)
    (hfound : valueOf? subscription m.world.subscriptions = some found)
    (hown : m.world.own? target observersName = some found.list)
    (hheld : m.world.heldAt found.list = .list items) :
    m.world.observersOf target = .ok items ∧
      m.outcome.1.observersOf target = .ok (World.withoutFirst found.observer items) := by
  refine ⟨World.observersOf_of_list hown hheld, ?_⟩
  have houtcome : m.outcome = (m.world.unsubscribe found, .ok .null) := by
    unfold Moment.outcome
    rw [hstep]
    simp only [World.takeStep, hfound]
  rw [houtcome]
  exact World.observersOf_unsubscribe hm.world.sound hown hheld

/-- The rules that the step at a moment keeps to.  Those that are about any way to tell observers
hold whatever the observers do when they are called. -/
structure Lawful (m : Moment) : Prop where
  /-- Only assignments call observers. -/
  silent : (∀ name field value, m.step ≠ .set name field value) →
    ∀ tell, m.world.callsOf tell m.step = [] ∧ m.world.takeStep tell m.step = m.outcome
  /-- If the class is frozen, nothing is stored and nobody is called. -/
  refused : ∀ {target field value i}, m.Assigns target field value →
    m.world.instance? target = some i → i.kind.frozen = true →
    ∀ tell, m.world.takeStep tell m.step = (m.world, .error (.frozenAssignment field)) ∧
      m.world.callsOf tell m.step = []
  /-- The value is stored and then told to the observers of that moment. -/
  tells : ∀ {target field value i}, m.Assigns target field value →
    m.world.instance? target = some i → i.kind.frozen = false → i.kind.broadcasts = 1 →
    field ≠ observersName → ∀ tell, m.Tells tell target field value
  /-- The value stays, also when an observer fails. -/
  stays : ∀ {target field value i}, m.Assigns target field value →
    m.world.instance? target = some i → i.kind.frozen = false →
    ((∀ later, m.LeadsTo later → ¬ later.world.Rebinds target field later.step) →
      m.outcome.1.own? target field = some m.world.held.length) ∧
    ((∀ later, m.LeadsTo later → ¬ later.world.Touches target field later.step) →
      m.outcome.1.heldAt m.world.held.length = Held.ofJson value)
  /-- A registration counts from the next assignment on. -/
  registers : ∀ {name subscription observer steps times target},
    m.step = .observe name subscription observer steps times →
    m.world.named name = .ok target → m.outcome.2 = .ok .null →
    ∃ observers, m.world.observersOf target = .ok observers ∧
      m.outcome.1.observersOf target = .ok (observers ++ [.observer observer])
  /-- So does the end of a registration. -/
  unregisters : ∀ {subscription found items target}, m.step = .unsubscribe subscription →
    valueOf? subscription m.world.subscriptions = some found →
    m.world.own? target observersName = some found.list →
    m.world.heldAt found.list = .list items →
    m.world.observersOf target = .ok items ∧
      m.outcome.1.observersOf target = .ok (World.withoutFirst found.observer items)
  /-- What no step names is left alone. -/
  untouched : ∀ {target name number}, m.world.own? target name = some number →
    (∀ later, m.Includes later → ¬ later.world.Touches target name later.step) →
    m.outcome.1.own? target name = some number ∧
      m.outcome.1.heldAt number = m.world.heldAt number
  /-- What an instance does not have, it does not get. -/
  unset : ∀ {target name}, target < m.world.instances.length →
    m.world.own? target name = none →
    (∀ later, m.Includes later → ¬ later.world.Rebinds target name later.step) →
    m.outcome.1.own? target name = none
  /-- The observers have leave for all they do. -/
  ends : m.outcome.2 ≠ .error .exhausted

theorem Regular.lawful (hm : m.Regular leaves) : m.Lawful where
  silent hstep tell :=
    ⟨World.callsOf_of_not_set hstep, (World.silent_of_not_set m.world hstep).same tell _⟩
  refused h hi hfrozen := h.refused hi hfrozen
  tells h hi hfrozen honce hfield := h.tells hm.world.sound hi hfrozen honce hfield
  stays h hi hfrozen := ⟨h.stays hm hi hfrozen, h.unchanged hm hi hfrozen⟩
  registers hstep hname hok := hm.registers hstep hname hok
  unregisters hstep hfound hown hheld := hm.unregisters hstep hfound hown hheld
  untouched hown hsteps := by
    refine ⟨?_, hm.heldAt_eq hown hsteps⟩
    rw [hm.own?_eq (World.lt_length_of_own? hown) fun later hlater hrebinds =>
      hsteps later hlater (.inl hrebinds)]
    exact hown
  unset htarget hown hsteps := (hm.own?_eq htarget hsteps).trans hown
  ends := hm.keeps_orderly.ends

end Moment

end RecordMirror.Observation
