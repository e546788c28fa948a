import RecordMirror.Proofs.Observation.Calls
/-!
What steps do by themselves.  Only assignments call observers: not even the fields of a new instance
are told to anyone, for it has no observers yet.
-/

namespace RecordMirror.Observation

/-- What is held has no observers among its elements. -/
def Held.Plain (held : Held) : Prop :=
  ∀ items, held.items = .ok items → ∀ item ∈ items, ∃ value, item = .value value

theorem Held.plain_ofJson (value : Json) : (Held.ofJson value).Plain := by
  intro items hitems item hitem
  unfold Held.ofJson at hitems
  split at hitems
  · cases hitems
    obtain ⟨element, -, rfl⟩ := List.mem_map.1 hitem
    exact ⟨element, rfl⟩
  · unfold Held.items at hitems
    split at hitems
    · rename_i heq
      cases heq
    · cases hitems
      obtain ⟨c, -, rfl⟩ := List.mem_map.1 hitem
      exact ⟨_, rfl⟩
    · cases hitems
      obtain ⟨m, -, rfl⟩ := List.mem_map.1 hitem
      exact ⟨_, rfl⟩
    · cases hitems

theorem valueOf?_cons (key name : String) (value : α) (pairs : List (String × α)) :
    valueOf? key ((name, value) :: pairs) =
      if name = key then some value else valueOf? key pairs := by
  by_cases hname : name = key <;> simp [valueOf?, hname]

theorem valueOf?_filter (key other : String) (pairs : List (String × α)) :
    valueOf? other (pairs.filter (·.1 ≠ key)) =
      if other = key then none else valueOf? other pairs := by
  induction pairs with
  | nil => simp [valueOf?]
  | cons head rest ih =>
      obtain ⟨name, value⟩ := head
      by_cases hname : name = key
      · rw [List.filter_cons_of_neg (by simpa using hname), ih, valueOf?_cons]
        by_cases hother : other = key
        · simp [hother]
        · have hne : name ≠ other := fun h => hother (h.symm.trans hname)
          simp [hother, hne]
      · rw [List.filter_cons_of_pos (by simpa using hname), valueOf?_cons, valueOf?_cons, ih]
        by_cases hother : name = other
        · simp [← hother, hname]
        · simp [hother]

namespace World

/-! ### Nobody is told of what a new instance holds -/

/-- A list without observers among its elements calls nobody. -/
theorem tellAll_of_plain {items : List Item}
    (hitems : ∀ item ∈ items, ∃ value, item = .value value) :
    ∃ result : Except Fault Unit, result ≠ .error .exhausted ∧
      ∀ tell change w, tellAll tell change items w = (w, result) := by
  cases items with
  | nil => exact ⟨.ok (), nofun, fun _ _ _ => rfl⟩
  | cons item rest =>
      obtain ⟨value, rfl⟩ := hitems item (by simp)
      exact ⟨.error (.notCallable value.typeName), nofun, fun _ _ _ => rfl⟩

/-- No observers are among what an instance has for them. -/
def Unwatched (w : World) (target : Nat) : Prop :=
  ∀ items, w.observersOf target = .ok items → ∀ item ∈ items, ∃ value, item = .value value

theorem broadcast_of_unwatched {w : World} {target : Nat} (h : Unwatched w target) :
    ∃ result : Except Fault Unit, result ≠ .error .exhausted ∧
      ∀ tell (change : Change), change.target = target →
        broadcast tell change w = (w, result) := by
  cases hobservers : w.observersOf target with
  | error fault =>
      refine ⟨.error fault, ?_, ?_⟩
      · rintro ⟨⟩
        exact observersOf_ne_exhausted hobservers rfl
      · rintro tell change rfl
        simp only [broadcast, hobservers]
  | ok items =>
      obtain ⟨result, hresult, htell⟩ := tellAll_of_plain (h items hobservers)
      refine ⟨result, hresult, ?_⟩
      rintro tell change rfl
      simp only [broadcast, hobservers, htell]

theorem assignWith_of_unwatched {w : World} {target number : Nat} {name : String}
    (h : Unwatched (w.store target name number) target) (broadcasts : Nat) :
    ∃ result : Except Fault Unit, result ≠ .error .exhausted ∧ ∀ tell,
      assignWith tell target name number broadcasts w = (w.store target name number, result) := by
  induction broadcasts with
  | zero => exact ⟨.ok (), nofun, fun _ => rfl⟩
  | succ broadcasts ih =>
      obtain ⟨earlier, hearlier, hassign⟩ := ih
      rcases earlier with fault | _
      · exact ⟨.error fault, hearlier, fun tell => by simp only [assignWith, hassign]⟩
      · obtain ⟨result, hresult, htell⟩ := broadcast_of_unwatched h
        exact ⟨result, hresult, fun tell => by simp only [assignWith, hassign, htell]⟩

/-- A world with one more instance and more that is held. -/
def extend (w : World) (i : Instance) (more : List Held) : World :=
  { w with instances := w.instances ++ [i], held := w.held ++ more }

/-- What a new instance holds is new as well, each attribute has its own, and none holds an
observer. -/
structure Fresh (w : World) (i : Instance) (more : List Held) : Prop where
  bound : ∀ name number, valueOf? name i.attributes = some number →
    w.held.length ≤ number ∧ number < w.held.length + more.length
  apart : ∀ name other number, valueOf? name i.attributes = some number →
    valueOf? other i.attributes = some number → name = other
  plain : ∀ held ∈ more, held.Plain

theorem own?_extend_self (w : World) (i : Instance) (more : List Held) (name : String) :
    (w.extend i more).own? w.instances.length name = valueOf? name i.attributes := by
  simp [extend, own?, instance?]

theorem own?_extend_of_ne {w : World} {target : Nat} (hne : target ≠ w.instances.length)
    (i : Instance) (more : List Held) (name : String) :
    (w.extend i more).own? target name = w.own? target name := by
  simp only [extend, own?, instance?]
  rcases Nat.lt_or_gt_of_ne hne with hlt | hgt
  · rw [List.getElem?_append_left hlt]
  · rw [List.getElem?_eq_none (by simp; omega), List.getElem?_eq_none (by omega)]

theorem heldAt_extend {w : World} {number : Nat} (hnumber : number < w.held.length)
    (i : Instance) (more : List Held) : (w.extend i more).heldAt number = w.heldAt number := by
  show (w.held ++ more).getD number _ = w.held.getD number _
  simp [List.getD_eq_getElem?_getD, List.getElem?_append_left hnumber]

/-- A field of a new instance. -/
theorem put_extend (w : World) (i : Instance) (more : List Held) (name : String) (held : Held) :
    (w.extend i more).put w.instances.length name held =
      w.extend { i with attributes := setValue name (w.held.length + more.length) i.attributes }
        (more ++ [held]) := by
  simp only [extend, put, hold, store, modifyAttributes, World.mk.injEq, true_and, and_true,
    List.append_assoc, List.length_append]
  exact List.modifyTailIdx_add _ 0 w.instances [i]

theorem Fresh.put {w : World} {i : Instance} {more : List Held} (h : Fresh w i more)
    (name : String) {held : Held} (hheld : held.Plain) :
    Fresh w { i with attributes := setValue name (w.held.length + more.length) i.attributes }
      (more ++ [held]) where
  bound other number hother := by
    rw [valueOf?_setValue] at hother
    rw [List.length_append, List.length_singleton]
    split at hother
    · cases hother
      omega
    · have := h.bound other number hother
      omega
  apart first second number hfirst hsecond := by
    rw [valueOf?_setValue] at hfirst hsecond
    split at hfirst
    · cases hfirst
      split at hsecond
      · simp_all
      · have := h.bound second _ hsecond
        omega
    · split at hsecond
      · cases hsecond
        have := h.bound first _ hfirst
        omega
      · exact h.apart first second number hfirst hsecond
  plain other hother := by
    rcases List.mem_append.1 hother with hother | hother
    · exact h.plain other hother
    · exact List.mem_singleton.1 hother ▸ hheld

theorem Fresh.unwatched {w : World} {i : Instance} {more : List Held} (h : Fresh w i more) :
    Unwatched (w.extend i more) w.instances.length := by
  intro items hitems
  unfold observersOf at hitems
  rw [own?_extend_self] at hitems
  split at hitems
  · cases hitems
    exact nofun
  · rename_i number hnumber
    obtain ⟨hlow, hhigh⟩ := h.bound _ number hnumber
    have hheld : (w.extend i more).heldAt number ∈ more := by
      show (w.held ++ more).getD number _ ∈ more
      rw [List.getD_eq_getElem?_getD, List.getElem?_append_right hlow]
      rw [List.getElem?_eq_getElem (by omega)]
      exact List.getElem_mem _
    exact h.plain _ hheld items hitems

/-- The fields of a new instance are told to nobody. -/
theorem initialise_extend (w : World) (kind : Class) (fields : List (String × Json))
    {i : Instance} {more : List Held} (h : Fresh w i more) :
    ∃ i' more' result, Fresh w i' more' ∧ result ≠ .error .exhausted ∧
      ∀ tell, initialise tell w.instances.length kind fields (w.extend i more) =
        (w.extend i' more', result) := by
  induction fields generalizing i more with
  | nil => exact ⟨i, more, .ok (), h, nofun, fun _ => rfl⟩
  | cons field rest ih =>
      obtain ⟨name, value⟩ := field
      have hplaced := h.put name (Held.plain_ofJson value)
      have hput := put_extend w i more name (Held.ofJson value)
      have hunwatched : Unwatched ((w.extend i more).put w.instances.length name
          (Held.ofJson value)) w.instances.length := by
        rw [hput]
        exact hplaced.unwatched
      obtain ⟨result, hresult, hassign⟩ := assignWith_of_unwatched
        (w := ((w.extend i more).hold (Held.ofJson value)).1) hunwatched
        (if kind.frozen then 0 else kind.broadcasts)
      have hstore : (((w.extend i more).hold (Held.ofJson value)).1.store w.instances.length name
          (w.extend i more).held.length) = _ := hput
      rw [hstore] at hassign
      rcases result with fault | _
      · refine ⟨_, _, .error fault, hplaced, hresult, fun tell => ?_⟩
        have htell := hassign tell
        simp only [initialise, hold] at htell ⊢
        rw [htell]
      · obtain ⟨i', more', result, hfresh, hresult, hinit⟩ := ih hplaced
        refine ⟨i', more', result, hfresh, hresult, fun tell => ?_⟩
        have htell := hassign tell
        simp only [initialise, hold] at htell ⊢
        rw [htell]
        exact hinit tell

theorem badKeyword?_ne_exhausted {kind : Class} {values : List (String × Json)} {fault : Fault}
    (h : badKeyword? kind values = some fault) : fault ≠ .exhausted := by
  obtain ⟨⟨name, value⟩, -, hname⟩ := List.exists_of_findSome?_eq_some h
  by_cases hfield : (Json.member? kind.fields name).isSome = true
  · simp [hfield] at hname
  · by_cases hself : name = "self" <;> simp [hfield, hself] at hname <;> simp [← hname]

theorem classNamed_ne_exhausted {w : World} {name : String} {fault : Fault}
    (h : w.classNamed name = .error fault) : fault ≠ .exhausted := by
  unfold classNamed at h
  split at h <;> cases h
  exact nofun

theorem named_ne_exhausted {w : World} {name : String} {fault : Fault}
    (h : w.named name = .error fault) : fault ≠ .exhausted := by
  unfold named at h
  split at h <;> cases h
  exact nofun

/-! ### The effects of steps -/

/-- A world in which an instance does not have an attribute. -/
def remove (w : World) (target : Nat) (name : String) : World :=
  w.modifyAttributes target (·.filter (·.1 ≠ name))

/-- Gives a registration a name. -/
def record (w : World) (subscription : String) (number : Nat) (observer : String) : World :=
  { w with subscriptions := setValue subscription ⟨number, observer⟩ w.subscriptions }

/-- What a step can do by itself, before it calls anyone. -/
inductive Effect (w : World) : Step → World → Prop
  | nothing {step : Step} : Effect w step w
  | stored {name field : String} {value : Json} {target : Nat} (found : w.named name = .ok target) :
      Effect w (.set name field value) (w.put target field (Held.ofJson value))
  | made {className name : String} {values : List (String × Json)} {i : Instance}
      {more : List Held} {names : List (String × Nat)} (fresh : Fresh w i more) :
      Effect w (.new className name values) { w.extend i more with names := names }
  | removed {name field : String} {target : Nat} (found : w.named name = .ok target) :
      Effect w (.delete name field) (w.remove target field)
  | extended {name field : String} {value : Json} {target number : Nat} {items : List Item}
      (found : w.named name = .ok target) (own : w.own? target field = some number)
      (held : w.heldAt number = .list items) :
      Effect w (.append name field value) (w.setHeld number (.list (items ++ [.value value])))
  | introduced {name subscription observer : String} {steps : List Step} {times : Nat} :
      Effect w (.observe name subscription observer steps times)
        (w.introduce observer steps times)
  | joined {name subscription observer : String} {steps : List Step} {times target number : Nat}
      {items : List Item} (found : w.named name = .ok target)
      (own : w.own? target observersName = some number) (held : w.heldAt number = .list items) :
      Effect w (.observe name subscription observer steps times)
        (((w.introduce observer steps times).setHeld number
          (.list (items ++ [.observer observer]))).record subscription number observer)
  | opened {name subscription observer : String} {steps : List Step} {times target : Nat}
      (found : w.named name = .ok target) (own : w.own? target observersName = none) :
      Effect w (.observe name subscription observer steps times)
        (((w.introduce observer steps times).put target observersName
          (.list [.observer observer])).record subscription w.held.length observer)
  | ended {subscription : String} {found : Subscription} {items : List Item}
      (name : valueOf? subscription w.subscriptions = some found)
      (held : w.heldAt found.list = .list items) :
      Effect w (.unsubscribe subscription)
        (w.setHeld found.list (.list (withoutFirst found.observer items)))

/-- What comes of a step that calls nobody. -/
structure Settles {α : Type} (w : World) (step : Step) (outcome : World × Except Fault α) :
    Prop where
  effect : Effect w step outcome.1
  ends : outcome.2 ≠ .error .exhausted

/-- A step that calls nobody: the same comes of it whatever observers do when they are told of
something. -/
structure Silent (w : World) (step : Step) : Prop where
  same : ∀ tell other, w.takeStep tell step = w.takeStep other step
  settles : ∀ tell, Settles w step (w.takeStep tell step)

theorem Settles.refused {α : Type} {w : World} {step : Step} {fault : Fault}
    (hfault : fault ≠ .exhausted) : Settles (α := α) w step (w, .error fault) := by
  refine ⟨.nothing, ?_⟩
  rintro ⟨⟩
  exact hfault rfl

theorem Settles.withoutValue {w : World} {step : Step} {outcome : World × Except Fault Unit}
    (h : Settles w step outcome) : Settles w step (withoutValue outcome) := by
  obtain ⟨after, fault | _⟩ := outcome
  · refine ⟨h.effect, ?_⟩
    rintro ⟨⟩
    exact h.ends rfl
  · exact ⟨h.effect, nofun⟩

theorem Settles.withInstance {w : World} {step : Step} {name : String}
    {action : Nat → World × Except Fault Json}
    (h : ∀ target, w.named name = .ok target → Settles w step (action target)) :
    Settles w step (w.withInstance name action) := by
  unfold World.withInstance
  cases hname : w.named name with
  | error fault => exact .refused (named_ne_exhausted hname)
  | ok target => exact h target hname

theorem silent_of_eq {w : World} {step : Step} (outcome : World × Except Fault Json)
    (heq : ∀ tell, w.takeStep tell step = outcome) (h : Settles w step outcome) :
    Silent w step :=
  ⟨fun tell other => (heq tell).trans (heq other).symm, fun tell => heq tell ▸ h⟩

theorem silent_new (w : World) (className name : String) (values : List (String × Json)) :
    Silent w (.new className name values) := by
  cases hkind : w.classNamed className with
  | error fault =>
      refine silent_of_eq (w, .error fault) (fun tell => ?_)
        (.refused (classNamed_ne_exhausted hkind))
      simp only [takeStep, make, hkind, World.withoutValue]
  | ok kind =>
      cases hbad : badKeyword? kind values with
      | some fault =>
          refine silent_of_eq (w, .error fault) (fun tell => ?_)
            (.refused (badKeyword?_ne_exhausted hbad))
          simp only [takeStep, make, hkind, hbad, World.withoutValue]
      | none =>
          have hnew : Fresh w { name := name, kind := kind } [] := ⟨nofun, nofun, nofun⟩
          obtain ⟨i, more, result, hfresh, hresult, hinit⟩ := initialise_extend w kind
            (kind.fields.map fun field =>
              (field.1, (Json.member? values field.1).getD field.2)) hnew
          have hbegin : w.extend { name := name, kind := kind } [] =
              { w with instances := w.instances ++ [{ name := name, kind := kind }] } := by
            simp only [extend, List.append_nil]
          rw [hbegin] at hinit
          rcases result with fault | _
          · refine silent_of_eq (w.extend i more, .error fault) (fun tell => ?_)
              ⟨@Effect.made w className name values i more w.names hfresh, ?_⟩
            · simp only [takeStep, make, hkind, hbad, hinit, World.withoutValue]
            · rintro ⟨⟩
              exact hresult rfl
          · refine silent_of_eq ({ w.extend i more with
              names := setValue name w.instances.length w.names }, .ok .null) (fun tell => ?_)
              ⟨.made hfresh, ?_⟩
            · simp only [takeStep, make, hkind, hbad, hinit, World.withoutValue]
              rfl
            · rintro ⟨⟩

theorem shown_ne_exhausted {w : World} {target : Nat} {name : String} {fault : Fault}
    (h : w.shown target name = .error fault) : fault ≠ .exhausted := by
  unfold shown at h
  split at h <;> cases h
  exact nofun

theorem settles_get {w : World} {name field : String} (target : Nat) :
    Settles w (.get name field) (w, (w.shown target field).map Held.toJson) := by
  cases hshown : w.shown target field with
  | error fault => exact .refused (shown_ne_exhausted hshown)
  | ok held => exact ⟨.nothing, nofun⟩

theorem settles_delete {w : World} {name field : String} {target : Nat}
    (hname : w.named name = .ok target) :
    Settles w (.delete name field) (w.delete target field) := by
  unfold World.delete
  split
  · exact ⟨.nothing, nofun⟩
  · split
    · exact ⟨.nothing, nofun⟩
    · split
      · exact ⟨.nothing, nofun⟩
      · exact ⟨.removed hname, nofun⟩

theorem settles_append {w : World} {name field : String} {target : Nat} (value : Json)
    (hname : w.named name = .ok target) :
    Settles w (.append name field value) (w.append target field value) := by
  cases hown : w.own? target field with
  | none =>
      simp only [World.append, hown]
      cases hshown : w.shown target field with
      | error fault => exact .refused (shown_ne_exhausted hshown)
      | ok held => exact ⟨.nothing, nofun⟩
  | some number =>
      simp only [World.append, hown, extendHeld]
      cases hheld : w.heldAt number with
      | list items => exact ⟨.extended hname hown hheld, nofun⟩
      | value other => exact ⟨.nothing, nofun⟩

@[simp] theorem own?_introduce (w : World) (observer : String) (steps : List Step)
    (times target : Nat) (name : String) :
    (w.introduce observer steps times).own? target name = w.own? target name := by
  unfold introduce
  split <;> rfl

@[simp] theorem held_introduce (w : World) (observer : String) (steps : List Step) (times : Nat) :
    (w.introduce observer steps times).held = w.held := by
  unfold introduce
  split <;> rfl

@[simp] theorem heldAt_introduce (w : World) (observer : String) (steps : List Step)
    (times number : Nat) :
    (w.introduce observer steps times).heldAt number = w.heldAt number := by
  simp only [heldAt, held_introduce]

theorem setHeld_put (w : World) (target : Nat) (name : String) (held other : Held) :
    (w.put target name held).setHeld w.held.length other = w.put target name other := by
  simp [put, hold, store, modifyAttributes, setHeld]

/-- What comes of a registration: it is refused, or it is the last in the list of the instance,
which is made if there is none. -/
theorem observe_cases (w : World) (target : Nat) (subscription observer : String) :
    (∃ fault, fault ≠ .exhausted ∧
        w.observe target subscription observer = (w, .error fault)) ∨
      (∃ number items, w.own? target observersName = some number ∧
        w.heldAt number = .list items ∧ w.observe target subscription observer =
          ((w.setHeld number (.list (items ++ [.observer observer]))).record subscription number
            observer, .ok ())) ∨
      (w.isObservable target = true ∧ w.own? target observersName = none ∧
        w.observe target subscription observer =
          ((w.put target observersName (.list [.observer observer])).record subscription
            w.held.length observer, .ok ())) := by
  unfold World.observe
  split
  · rename_i hobservable
    cases hown : w.own? target observersName with
    | some number =>
        simp only [observerList, hown, extendHeld]
        cases hheld : w.heldAt number with
        | value other => exact .inl ⟨.noAttribute _ _, by rintro ⟨⟩, rfl⟩
        | list items => exact .inr (.inl ⟨number, items, rfl, hheld, rfl⟩)
    | none =>
        have hself := heldAt_put_self w target observersName (.list [])
        have hset := setHeld_put w target observersName (.list []) (.list [.observer observer])
        simp only [put, hold] at hself hset
        simp only [observerList, hown, extendHeld, hold, hself, List.nil_append, hset]
        exact .inr (.inr ⟨hobservable, trivial, rfl⟩)
  · exact .inl ⟨.notObservable _, by rintro ⟨⟩, rfl⟩

theorem settles_observe {w : World} {name : String} {target : Nat} (subscription observer : String)
    (steps : List Step) (times : Nat) (hname : w.named name = .ok target) :
    Settles w (.observe name subscription observer steps times)
      ((w.introduce observer steps times).observe target subscription observer) := by
  rcases observe_cases (w.introduce observer steps times) target subscription observer with
    ⟨fault, hfault, hobserve⟩ | ⟨number, items, hown, hheld, hobserve⟩ | ⟨-, hown, hobserve⟩
  · rw [hobserve]
    refine ⟨.introduced, ?_⟩
    rintro ⟨⟩
    exact hfault rfl
  · rw [own?_introduce] at hown
    rw [heldAt_introduce] at hheld
    rw [hobserve]
    exact ⟨.joined hname hown hheld, nofun⟩
  · rw [own?_introduce] at hown
    rw [hobserve, held_introduce]
    exact ⟨.opened hname hown, nofun⟩

theorem settles_unsubscribe {w : World} {subscription : String} {found : Subscription}
    (hfound : valueOf? subscription w.subscriptions = some found) :
    Settles (α := Json) w (.unsubscribe subscription) (w.unsubscribe found, .ok .null) := by
  unfold World.unsubscribe
  cases hheld : w.heldAt found.list with
  | list items => exact ⟨.ended hfound hheld, nofun⟩
  | value other => exact ⟨.nothing, nofun⟩

/-- Only assignments call observers. -/
theorem silent_of_not_set (w : World) {step : Step}
    (hstep : ∀ name field value, step ≠ .set name field value) : Silent w step := by
  cases step with
  | new className name values => exact silent_new w className name values
  | set name field value => exact absurd rfl (hstep name field value)
  | get name field =>
      exact silent_of_eq _ (fun _ => rfl) (.withInstance fun target _ => settles_get target)
  | delete name field =>
      exact silent_of_eq _ (fun _ => rfl)
        (.withInstance fun _ hname => (settles_delete hname).withoutValue)
  | append name field value =>
      exact silent_of_eq _ (fun _ => rfl)
        (.withInstance fun _ hname => (settles_append value hname).withoutValue)
  | observe name subscription observer steps times =>
      exact silent_of_eq _ (fun _ => rfl)
        (.withInstance fun _ hname =>
          (settles_observe subscription observer steps times hname).withoutValue)
  | unsubscribe subscription =>
      refine silent_of_eq _ (fun _ => rfl) ?_
      split
      · exact .refused nofun
      · rename_i found hfound
        exact settles_unsubscribe hfound
  | isObservable name =>
      exact silent_of_eq _ (fun _ => rfl) (.withInstance fun _ _ => ⟨.nothing, nofun⟩)
  | isObservableClass className =>
      refine silent_of_eq _ (fun _ => rfl) ?_
      cases hkind : w.classNamed className with
      | error fault => exact .refused (classNamed_ne_exhausted hkind)
      | ok kind => exact ⟨.nothing, nofun⟩
  | isObservableValue value => exact silent_of_eq _ (fun _ => rfl) ⟨.nothing, nofun⟩
  | observeClass className =>
      refine silent_of_eq _ (fun _ => rfl) ?_
      cases hkind : w.classNamed className with
      | error fault => exact .refused (classNamed_ne_exhausted hkind)
      | ok kind =>
          refine .refused ?_
          unfold observeClass
          split <;> exact nofun
  | observeValue value => exact silent_of_eq _ (fun _ => rfl) (.refused nofun)
  | fail message => exact silent_of_eq _ (fun _ => rfl) (.refused nofun)

theorem callsOf_of_not_set {tell : Tell} {w : World} {step : Step}
    (hstep : ∀ name field value, step ≠ .set name field value) : w.callsOf tell step = [] := by
  cases step with
  | set name field value => exact absurd rfl (hstep name field value)
  | new | get | delete | append | observe | unsubscribe | isObservable | isObservableClass
  | isObservableValue | observeClass | observeValue | fail => rfl

/-- An assignment puts the value in its place, or does nothing; the rest is done in its calls. -/
theorem traced_set (tell : Tell) (w : World) (name field : String) (value : Json) :
    ∃ own, Effect w (.set name field value) own ∧
      Traced tell own (w.callsOf tell (.set name field value))
        (w.takeStep tell (.set name field value)) := by
  simp only [callsOf, takeStep, withInstance]
  cases hname : w.named name with
  | error fault => exact ⟨w, .nothing, .refused (named_ne_exhausted hname)⟩
  | ok target =>
      simp only
      cases hi : w.instance? target with
      | none =>
          simp only [assignCalls, assign, hi]
          exact ⟨w, .nothing, .nothing (by rintro ⟨⟩)⟩
      | some i =>
          cases hfrozen : i.kind.frozen with
          | true =>
              obtain ⟨hassign, hcalls⟩ := assign_of_frozen tell field hi hfrozen value
              rw [hassign, hcalls]
              exact ⟨w, .nothing, .refused (by rintro ⟨⟩)⟩
          | false =>
              exact ⟨_, .stored hname, (traced_assign tell hi hfrozen value).withoutValue⟩

/-- A step does something by itself; the rest is done in its calls. -/
theorem traced_takeStep (tell : Tell) (w : World) (step : Step) :
    ∃ own, Effect w step own ∧ Traced tell own (w.callsOf tell step) (w.takeStep tell step) := by
  by_cases hset : ∃ name field value, step = .set name field value
  · obtain ⟨name, field, value, rfl⟩ := hset
    exact traced_set tell w name field value
  · have hstep : ∀ name field value, step ≠ .set name field value :=
      fun name field value h => hset ⟨name, field, value, h⟩
    have hsettles := (silent_of_not_set w hstep).settles tell
    rw [callsOf_of_not_set hstep]
    exact ⟨_, hsettles.effect, .nothing hsettles.ends⟩

end World

end RecordMirror.Observation
