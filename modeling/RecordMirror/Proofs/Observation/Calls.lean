import RecordMirror.Proofs.Observation.Notification
/-!
The calls of an assignment.  It puts the value in its place and then goes over the list of observers
that it finds there; whatever else comes of it was done in one of its calls.
-/

namespace RecordMirror.Observation

/-- A call of an observer: what it is told of, in which world, and what comes of it. -/
structure Call where
  observer : String
  change : Change
  before : World
  outcome : World × Except Fault Unit

/-- A round: the elements of a list are told of a change, each once and in order, until one of them
fails or cannot be called.  Between two calls nothing happens, and nothing is undone. -/
inductive Round (tell : Tell) (change : Change) :
    List Item → World → List Call → World × Except Fault Unit → Prop
  | finished {w : World} : Round tell change [] w [] (w, .ok ())
  | notCallable {value : Json} {rest : List Item} {w : World} :
      Round tell change (.value value :: rest) w [] (w, .error (.notCallable value.typeName))
  | failed {observer : String} {rest : List Item} {w after : World} {fault : Fault}
      (told : tell w observer change = (after, .error fault)) :
      Round tell change (.observer observer :: rest) w
        [⟨observer, change, w, (after, .error fault)⟩] (after, .error fault)
  | called {observer : String} {rest : List Item} {w after : World} {calls : List Call}
      {outcome : World × Except Fault Unit} (told : tell w observer change = (after, .ok ()))
      (later : Round tell change rest after calls outcome) :
      Round tell change (.observer observer :: rest) w
        (⟨observer, change, w, (after, .ok ())⟩ :: calls) outcome

/-- Each call begins in the world that the one before it has left. -/
def Linked : World → List Call → World → Prop
  | w, [], after => after = w
  | w, call :: rest, after => call.before = w ∧ Linked call.outcome.1 rest after

theorem Linked.append {w middle after : World} {first second : List Call}
    (hfirst : Linked w first middle) (hsecond : Linked middle second after) :
    Linked w (first ++ second) after := by
  induction first generalizing w with
  | nil =>
      cases hfirst
      exact hsecond
  | cons call rest ih => exact ⟨hfirst.1, ih hfirst.2⟩

/-- What every call keeps is kept from the first to the last. -/
theorem Linked.keeps {w after : World} {calls : List Call} {P : World → Prop}
    (h : Linked w calls after) (hw : P w)
    (hcalls : ∀ call ∈ calls, P call.before → P call.outcome.1) :
    P after ∧ ∀ call ∈ calls, P call.before := by
  induction calls generalizing w with
  | nil =>
      cases h
      exact ⟨hw, nofun⟩
  | cons call rest ih =>
      have hbefore : P call.before := h.1 ▸ hw
      obtain ⟨hafter, hrest⟩ := ih h.2 (hcalls call (by simp) hbefore)
        fun other hother => hcalls other (List.mem_cons_of_mem _ hother)
      refine ⟨hafter, ?_⟩
      intro other hother
      rcases List.mem_cons.1 hother with rfl | hother
      · exact hbefore
      · exact hrest other hother

/-- What comes of some calls: the world that the last of them has left.  Leave runs out only in a
call. -/
structure Traced {α : Type} (tell : Tell) (w : World) (calls : List Call)
    (outcome : World × Except Fault α) : Prop where
  linked : Linked w calls outcome.1
  real : ∀ call ∈ calls, call.outcome = tell call.before call.observer call.change
  exhausted : outcome.2 = .error .exhausted → ∃ call ∈ calls, call.outcome.2 = .error .exhausted

variable {α : Type} {tell : Tell} {change : Change}

theorem Traced.nothing {w : World} {result : Except Fault α}
    (hresult : result ≠ .error .exhausted) : Traced tell w [] (w, result) :=
  ⟨rfl, nofun, fun h => absurd h hresult⟩

theorem Traced.refused {w : World} {fault : Fault} (hfault : fault ≠ .exhausted) :
    Traced (α := α) tell w [] (w, .error fault) := by
  refine .nothing ?_
  rintro ⟨⟩
  exact hfault rfl

theorem Traced.single {w after : World} {observer : String} {result : Except Fault Unit}
    (htell : tell w observer change = (after, result)) :
    Traced tell w [⟨observer, change, w, (after, result)⟩] (after, result) where
  linked := ⟨rfl, rfl⟩
  real call hcall := by
    cases List.mem_singleton.1 hcall
    exact htell.symm
  exhausted h := ⟨_, List.mem_singleton_self _, h⟩

theorem Traced.append {β : Type} {w middle : World} {first second : List Call}
    {result : Except Fault β} {outcome : World × Except Fault α}
    (hfirst : Traced tell w first (middle, result)) (hsecond : Traced tell middle second outcome) :
    Traced tell w (first ++ second) outcome where
  linked := hfirst.linked.append hsecond.linked
  real call hcall := (List.mem_append.1 hcall).elim (hfirst.real call) (hsecond.real call)
  exhausted h := by
    obtain ⟨call, hcall, hfault⟩ := hsecond.exhausted h
    exact ⟨call, List.mem_append_right _ hcall, hfault⟩

theorem Traced.withoutValue {w : World} {calls : List Call} {outcome : World × Except Fault Unit}
    (h : Traced tell w calls outcome) : Traced tell w calls (World.withoutValue outcome) := by
  obtain ⟨after, fault | _⟩ := outcome
  · exact ⟨h.linked, h.real, fun hfault => h.exhausted (by cases hfault; rfl)⟩
  · exact ⟨h.linked, h.real, nofun⟩

theorem Round.traced {items : List Item} {w : World} {calls : List Call}
    {outcome : World × Except Fault Unit} (h : Round tell change items w calls outcome) :
    Traced tell w calls outcome := by
  induction h with
  | finished => exact .nothing nofun
  | notCallable => exact .refused nofun
  | failed told => exact .single told
  | called told _ ih => exact (Traced.single told).append ih

/-- A round that comes to its end has told everyone. -/
theorem Round.complete {items : List Item} {w : World} {calls : List Call}
    {outcome : World × Except Fault Unit} (h : Round tell change items w calls outcome)
    (hok : outcome.2 = .ok ()) :
    calls.map (fun call => (Item.observer call.observer, call.change)) =
      items.map fun item => (item, change) := by
  induction h with
  | finished => rfl
  | notCallable | failed => cases hok
  | called _ _ ih => rw [List.map_cons, List.map_cons, ih hok]

namespace World

/-- The calls by which the elements of a list are told of a change. -/
def tellAllCalls (tell : Tell) (change : Change) : List Item → World → List Call
  | [], _ => []
  | .value _ :: _, _ => []
  | .observer id :: rest, w =>
    ⟨id, change, w, tell w id change⟩ ::
      match tell w id change with
      | (_, .error _) => []
      | (after, .ok ()) => tellAllCalls tell change rest after

/-- The calls by which the observers that an instance has are told of a change. -/
def broadcastCalls (tell : Tell) (change : Change) (w : World) : List Call :=
  match w.observersOf change.target with
  | .error _ => []
  | .ok observers => tellAllCalls tell change observers w

/-- The calls of a number of broadcasts. -/
def assignWithCalls (tell : Tell) (target : Nat) (name : String) (number : Nat) :
    Nat → World → List Call
  | 0, _ => []
  | broadcasts + 1, w =>
    assignWithCalls tell target name number broadcasts w ++
      match assignWith tell target name number broadcasts w with
      | (_, .error _) => []
      | (after, .ok ()) => broadcastCalls tell ⟨target, name, w.own? target name, number⟩ after

/-- The calls that the assignment of a value makes. -/
def assignCalls (tell : Tell) (target : Nat) (name : String) (value : Json) (w : World) :
    List Call :=
  match w.instance? target with
  | none => []
  | some i =>
    if i.kind.frozen then []
    else assignWithCalls tell target name w.held.length i.kind.broadcasts
      (w.hold (Held.ofJson value)).1

/-- The calls that a step makes. -/
def callsOf (tell : Tell) (w : World) : Step → List Call
  | .set name field value =>
    match w.named name with
    | .error _ => []
    | .ok target => assignCalls tell target field value w
  | _ => []

theorem round_tellAll (tell : Tell) (change : Change) (items : List Item) (w : World) :
    Round tell change items w (tellAllCalls tell change items w) (tellAll tell change items w) := by
  induction items generalizing w with
  | nil => exact .finished
  | cons item rest ih =>
      cases item with
      | value value => exact .notCallable
      | observer id =>
          rw [tellAllCalls, tellAll]
          rcases htell : tell w id change with ⟨after, fault | _⟩
          · exact .failed htell
          · exact .called htell (ih after)

theorem change_of_mem_tellAllCalls {items : List Item} {w : World} {call : Call}
    (h : call ∈ tellAllCalls tell change items w) : call.change = change := by
  induction items generalizing w with
  | nil => cases h
  | cons item rest ih =>
      cases item with
      | value value => cases h
      | observer id =>
          rw [tellAllCalls] at h
          rcases List.mem_cons.1 h with rfl | hrest
          · rfl
          · split at hrest
            · cases hrest
            · exact ih hrest

/-- The calls of an assignment are about what is assigned. -/
theorem change_of_mem_assignWithCalls {target number : Nat} {name : String} {broadcasts : Nat}
    {w : World} {call : Call} (h : call ∈ assignWithCalls tell target name number broadcasts w) :
    call.change.target = target ∧ call.change.name = name := by
  induction broadcasts with
  | zero => cases h
  | succ broadcasts ih =>
      rw [assignWithCalls] at h
      rcases List.mem_append.1 h with hearlier | hlast
      · exact ih hearlier
      · split at hlast
        · cases hlast
        · unfold broadcastCalls at hlast
          split at hlast
          · cases hlast
          · rw [change_of_mem_tellAllCalls hlast]
            exact ⟨rfl, rfl⟩

theorem change_of_mem_assignCalls {target : Nat} {name : String} {value : Json} {w : World}
    {call : Call} (h : call ∈ assignCalls tell target name value w) :
    call.change.target = target ∧ call.change.name = name := by
  unfold assignCalls at h
  split at h
  · cases h
  · split at h
    · cases h
    · exact change_of_mem_assignWithCalls h

theorem items_ne_exhausted {held : Held} {fault : Fault} (h : held.items = .error fault) :
    fault ≠ .exhausted := by
  unfold Held.items at h
  split at h <;> cases h
  exact nofun

theorem observersOf_ne_exhausted {w : World} {target : Nat} {fault : Fault}
    (h : w.observersOf target = .error fault) : fault ≠ .exhausted := by
  unfold observersOf at h
  split at h
  · cases h
  · exact items_ne_exhausted h

theorem traced_broadcast (tell : Tell) (change : Change) (w : World) :
    Traced tell w (broadcastCalls tell change w) (broadcast tell change w) := by
  unfold broadcastCalls broadcast
  cases hobservers : w.observersOf change.target with
  | error fault => exact .refused (observersOf_ne_exhausted hobservers)
  | ok observers => exact (round_tellAll tell change observers w).traced

/-- Once the value is in its place, an assignment consists of its calls. -/
theorem traced_assignWith (tell : Tell) (target : Nat) (name : String) (number broadcasts : Nat)
    (w : World) :
    Traced tell (w.store target name number)
      (assignWithCalls tell target name number broadcasts w)
      (assignWith tell target name number broadcasts w) := by
  induction broadcasts with
  | zero => exact .nothing nofun
  | succ broadcasts ih =>
      rw [assignWithCalls, assignWith]
      rcases hearlier : assignWith tell target name number broadcasts w with ⟨middle, fault | _⟩
      · rw [hearlier] at ih
        simpa using ih
      · rw [hearlier] at ih
        exact ih.append (traced_broadcast tell _ middle)

/-- A world in which an attribute of an instance holds something new. -/
def put (w : World) (target : Nat) (name : String) (held : Held) : World :=
  (w.hold held).1.store target name w.held.length

theorem own?_put {w : World} {target : Nat} {name : String} {held : Held} {i : Instance}
    (hi : w.instance? target = some i) :
    (w.put target name held).own? target name = some w.held.length :=
  own?_store_self (w := (w.hold held).1) hi

theorem own?_put_of_ne {w : World} {target other : Nat} {name field : String} {held : Held}
    (hne : ¬ (target = other ∧ name = field)) :
    (w.put target name held).own? other field = w.own? other field := by
  by_cases htarget : target = other
  · exact own?_store_of_name_ne fun hname => hne ⟨htarget, hname.symm⟩
  · exact own?_store_of_target_ne htarget

theorem heldAt_put {w : World} {target number : Nat} {name : String} {held : Held}
    (hnumber : number < w.held.length) :
    (w.put target name held).heldAt number = w.heldAt number :=
  heldAt_hold held hnumber

theorem heldAt_put_self (w : World) (target : Nat) (name : String) (held : Held) :
    (w.put target name held).heldAt w.held.length = held :=
  heldAt_hold_self w held

variable {w : World} {target : Nat} {name : String} {i : Instance}

/-- An assignment to a frozen instance does nothing. -/
theorem assign_of_frozen (tell : Tell) (name : String) (hi : w.instance? target = some i)
    (hfrozen : i.kind.frozen = true) (value : Json) :
    w.assign tell target name value = (w, .error (.frozenAssignment name)) ∧
      w.assignCalls tell target name value = [] := by
  simp only [assign, assignCalls, hi, hfrozen, if_true, and_self]

theorem traced_assign (tell : Tell) (hi : w.instance? target = some i)
    (hfrozen : i.kind.frozen = false) (value : Json) :
    Traced tell (w.put target name (Held.ofJson value)) (w.assignCalls tell target name value)
      (w.assign tell target name value) := by
  have htraced := traced_assignWith tell target name w.held.length i.kind.broadcasts
    (w.hold (Held.ofJson value)).1
  simp only [assignCalls, assign, hi, hfrozen, Bool.false_eq_true, if_false]
  exact htraced

/-- An assignment that is broadcast once. -/
theorem assign_of_once (tell : Tell) (name : String) (hi : w.instance? target = some i)
    (hfrozen : i.kind.frozen = false) (honce : i.kind.broadcasts = 1) (value : Json) :
    w.assign tell target name value =
        broadcast tell ⟨target, name, w.own? target name, w.held.length⟩
          (w.put target name (Held.ofJson value)) ∧
      w.assignCalls tell target name value =
        broadcastCalls tell ⟨target, name, w.own? target name, w.held.length⟩
          (w.put target name (Held.ofJson value)) := by
  simp only [assign, assignCalls, hi, hfrozen, honce, Bool.false_eq_true, if_false, assignWith,
    assignWithCalls, List.nil_append]
  exact ⟨rfl, rfl⟩

/-- The elements that one broadcast goes over are those that the instance had when the assignment
began. -/
theorem observersOf_put (hname : name ≠ observersName)
    (hslot : ∀ number, w.own? target observersName = some number → number < w.held.length)
    (held : Held) : (w.put target name held).observersOf target = w.observersOf target := by
  unfold observersOf
  rw [own?_put_of_ne fun h => hname h.2]
  cases hown : w.own? target observersName with
  | none => rfl
  | some number => simp only [heldAt_put (hslot number hown)]

end World

end RecordMirror.Observation
