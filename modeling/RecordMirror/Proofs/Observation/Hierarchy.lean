import RecordMirror.Proofs.Observation.Calls
import RecordMirror.Proofs.Observation.Subscription
/-!
Chains of classes.  Making a class observable wraps the setter that the class has at that moment, be
it its own or that of a base, and the marker of a class is never looked at.  So setters are wrapped
over and over, and observers are called once for each of the wrappers.
-/

namespace RecordMirror.Observation

/-! ### Chains -/

/-- How the chain of the bases of a class changes. -/
inductive Forming
  /-- A class is based on the newest one, and is the newest from then on. -/
  | derive
  /-- The class at a place, counted from the newest one, is made observable, be it so already or
  not. -/
  | decorate (place : Nat)
deriving DecidableEq, Repr

section

variable {α β : Type}

/-- What the class at a place of a chain has: something of its own, or what the nearest of its bases
has of its own, or the plain thing. -/
def resolve (plain : α) (chain : List (Option α)) (place : Nat) : α :=
  ((chain.drop place).findSome? id).getD plain

/-- A class that is made observable has of its own what it had before, wrapped. -/
def form (plain : α) (wrap : α → α) (chain : List (Option α)) : Forming → List (Option α)
  | .derive => none :: chain
  | .decorate place => chain.set place (some (wrap (resolve plain chain place)))

/-- The chain that a history leads to, the newest class first. -/
def chainOf (plain : α) (wrap : α → α) (history : List Forming) : List (Option α) :=
  history.foldl (form plain wrap) []

theorem resolve_map (f : α → β) (plain : α) (chain : List (Option α)) (place : Nat) :
    resolve (f plain) (chain.map (Option.map f)) place = f (resolve plain chain place) := by
  unfold resolve
  rw [← List.map_drop]
  induction chain.drop place with
  | nil => rfl
  | cons own rest ih =>
      cases own with
      | none => exact ih
      | some own => rfl

theorem form_map (f : α → β) {wrap : α → α} {wrap' : β → β} (hwrap : ∀ a, f (wrap a) = wrap' (f a))
    (plain : α) (chain : List (Option α)) (forming : Forming) :
    form (f plain) wrap' (chain.map (Option.map f)) forming =
      (form plain wrap chain forming).map (Option.map f) := by
  cases forming with
  | derive => rfl
  | decorate place => simp only [form, resolve_map, ← hwrap, List.map_set, Option.map_some]

theorem chainOf_map (f : α → β) {wrap : α → α} {wrap' : β → β}
    (hwrap : ∀ a, f (wrap a) = wrap' (f a)) (plain : α) (history : List Forming) :
    chainOf (f plain) wrap' history = (chainOf plain wrap history).map (Option.map f) := by
  unfold chainOf
  rw [← List.foldl_hom (List.map (Option.map f)) (form_map f hwrap plain), List.map_nil]

theorem chainOf_concat (plain : α) (wrap : α → α) (history : List Forming) (forming : Forming) :
    chainOf plain wrap (history ++ [forming]) =
      form plain wrap (chainOf plain wrap history) forming := by
  rw [chainOf, List.foldl_append]
  rfl

theorem resolve_set {plain : α} {chain : List (Option α)} {place : Nat} (own : α)
    (hplace : place < chain.length) :
    resolve plain (chain.set place (some own)) place = own := by
  rw [resolve, List.drop_set, if_neg (Nat.lt_irrefl place), Nat.sub_self,
    List.drop_eq_getElem_cons hplace]
  rfl

end

/-- The number of wrappers around the setter of the class at a place. -/
def wrappers (history : List Forming) (place : Nat) : Nat :=
  resolve 0 (chainOf 0 (· + 1) history) place

/-- A new class has the wrappers of its base. -/
theorem wrappers_derive (history : List Forming) :
    wrappers (history ++ [.derive]) 0 = wrappers history 0 := by
  rw [wrappers, chainOf_concat]
  rfl

/-- A class that is made observable gets one wrapper more, whatever it has already. -/
theorem wrappers_decorate {history : List Forming} {place : Nat}
    (hplace : place < (chainOf 0 (· + 1) history).length) :
    wrappers (history ++ [.decorate place]) place = wrappers history place + 1 := by
  rw [wrappers, chainOf_concat, form, resolve_set _ hplace]
  rfl

/-! ### Setters -/

/-- How an attribute of an instance is assigned what is held under a number. -/
abbrev Setter := Nat → String → Nat → World → World × Except Fault Unit

/-- The setter of classes that are not observable. -/
def storing : Setter := fun target name number w => (w.store target name number, .ok ())

/-- A setter wrapped to tell the observers, with what the attribute held before. -/
def broadcasting (tell : Tell) (original : Setter) : Setter := fun target name number w =>
  let change : Change := ⟨target, name, w.own? target name, number⟩
  match original target name number w with
  | (w, .error fault) => (w, .error fault)
  | (w, .ok ()) => w.broadcast tell change

/-- The setter of the class at a place. -/
def setter (tell : Tell) (history : List Forming) (place : Nat) : Setter :=
  resolve storing (chainOf storing (broadcasting tell) history) place

/-- Setters broadcast an assignment as often as they are wrapped. -/
theorem setter_eq_assignWith (tell : Tell) (history : List Forming) (place : Nat) :
    setter tell history place = fun target name number =>
      World.assignWith tell target name number (wrappers history place) := by
  let repeated : Nat → Setter := fun broadcasts target name number =>
    World.assignWith tell target name number broadcasts
  have hwrap : ∀ broadcasts, repeated (broadcasts + 1) =
      broadcasting tell (repeated broadcasts) := fun _ => rfl
  have hplain : repeated 0 = storing := rfl
  rw [setter, ← hplain, chainOf_map repeated hwrap, resolve_map]
  rfl

/-! ### Declared classes -/

/-- What a declaration does to the chain of the bases of its class. -/
def ClassDecl.forming (decl : ClassDecl) : List Forming :=
  if decl.observable then [.derive, .decorate 0] else [.derive]

/-- A class and its bases come from declarations, each over the class of the one before it. -/
inductive Lineage : List ClassDecl → Class → Prop
  | root (decl : ClassDecl) : Lineage [decl] (Class.extend ⟨"", [], [], false, 0⟩ decl)
  | based {line : List ClassDecl} {base : Class} {decl : ClassDecl} (earlier : Lineage line base)
      (named : decl.base = some base.name) : Lineage (line ++ [decl]) (base.extend decl)

/-- The class is the one at a place of a chain with this history: it broadcasts as often as the
setter is wrapped there. -/
def Class.Formed (c : Class) (history : List Forming) (place : Nat) : Prop :=
  c.broadcasts = wrappers history place

theorem wrappers_forming (history : List Forming) (decl : ClassDecl) :
    wrappers (history ++ decl.forming) 0 =
      if decl.observable then wrappers history 0 + 1 else wrappers history 0 := by
  unfold ClassDecl.forming
  split
  · have hnew : 0 < (chainOf 0 (· + 1) (history ++ [.derive])).length := by
      rw [chainOf_concat]
      exact Nat.succ_pos _
    rw [List.append_cons, wrappers_decorate hnew, wrappers_derive]
  · exact wrappers_derive history

theorem Lineage.formed {line : List ClassDecl} {c : Class} (h : Lineage line c) :
    c.Formed (line.flatMap ClassDecl.forming) 0 := by
  unfold Class.Formed
  induction h with
  | root decl =>
      rw [List.flatMap_singleton, ← List.nil_append decl.forming, wrappers_forming]
      rfl
  | @based line base decl _ _ ih =>
      rw [List.flatMap_append, List.flatMap_singleton, wrappers_forming, ← ih]
      rfl

/-- A class of a lineage has a wrapper for each class of it that is declared as observable. -/
theorem wrappers_flatMap_forming (line : List ClassDecl) :
    wrappers (line.flatMap ClassDecl.forming) 0 = line.countP (·.observable) := by
  induction line using List.reverseRecOn with
  | nil => rfl
  | append_singleton line decl ih =>
      rw [List.flatMap_append, List.flatMap_singleton, wrappers_forming, ih, List.countP_append,
        List.countP_singleton]
      split
      · rfl
      · rfl

theorem exists_lineage {decls : List ClassDecl} {c : Class} (h : c ∈ Class.declare decls) :
    ∃ line, line ⊆ decls ∧ Lineage line c := by
  induction decls using List.reverseRecOn generalizing c with
  | nil => cases h
  | append_singleton decls decl ih =>
      rw [Class.declare, List.foldl_append, ← Class.declare] at h
      rcases List.mem_cons.1 h with rfl | hearlier
      · have hlast : [decl] ⊆ decls ++ [decl] := List.subset_append_right _ _
        rcases hbase : decl.base.bind (Class.find? (Class.declare decls)) with _ | base
        · exact ⟨[decl], hlast, .root decl⟩
        · obtain ⟨name, hname, hfound⟩ := Option.bind_eq_some_iff.1 hbase
          obtain ⟨line, hline, hlineage⟩ := ih (List.mem_of_find?_eq_some hfound)
          have hsame : base.name = name := by simpa using List.find?_some hfound
          exact ⟨line ++ [decl], List.append_subset.2
            ⟨List.subset_append_of_subset_left _ hline, hlast⟩, .based hlineage (hsame ▸ hname)⟩
      · obtain ⟨line, hline, hlineage⟩ := ih hearlier
        exact ⟨line, List.subset_append_of_subset_left _ hline, hlineage⟩

/-! ### Observers -/

variable {tell : Tell} {w : World} {target : Nat} {observers : List String}

/-- A round calls observers one after the other, and all of them if it comes to its end. -/
theorem Round.called_once {change : Change} {calls : List Call}
    {outcome : World × Except Fault Unit}
    (h : Round tell change (observers.map Item.observer) w calls outcome) :
    calls.map (·.observer) <+: observers ∧
      (outcome.2 = .ok () → calls.map (·.observer) = observers) := by
  induction observers generalizing w calls with
  | nil =>
      cases h
      exact ⟨List.nil_prefix, fun _ => rfl⟩
  | cons observer rest ih =>
      cases h with
      | failed told => exact ⟨List.prefix_append _ _, nofun⟩
      | called told later =>
          obtain ⟨hstart, hall⟩ := ih later
          exact ⟨(List.prefix_cons_inj observer).2 hstart,
            fun hok => congrArg (observer :: ·) (hall hok)⟩

/-- A round in which nobody fails comes to its end. -/
theorem Round.ok_of_calls {change : Change} {calls : List Call}
    {outcome : World × Except Fault Unit}
    (h : Round tell change (observers.map Item.observer) w calls outcome)
    (hcalls : ∀ call ∈ calls, call.outcome.2 = .ok ()) : outcome.2 = .ok () := by
  induction observers generalizing w calls with
  | nil =>
      cases h
      rfl
  | cons observer rest ih =>
      cases h with
      | failed told => cases hcalls _ (List.mem_singleton_self _)
      | called told later =>
          exact ih later fun call hcall => hcalls call (List.mem_cons_of_mem _ hcall)

/-- The observer does not fail, and does not change who observes an instance. -/
structure Calm (target : Nat) (observers : List String) (call : Call) : Prop where
  ok : call.outcome.2 = .ok ()
  keeps : call.before.HasObservers target observers → call.outcome.1.HasObservers target observers

namespace World

theorem HasObservers.lt_length (h : w.HasObservers target observers) {number : Nat}
    (hown : w.own? target observersName = some number) : number < w.held.length := by
  by_contra hnumber
  have hnothing : w.heldAt number = .value .null := by
    rw [heldAt, List.getD_eq_getElem?_getD, List.getElem?_eq_none (Nat.le_of_not_lt hnumber)]
    rfl
  simp only [HasObservers, observersOf, hown, hnothing] at h
  cases h

theorem HasObservers.put {name : String} (h : w.HasObservers target observers)
    (hname : name ≠ observersName) (held : Held) :
    (w.put target name held).HasObservers target observers :=
  (observersOf_put hname (fun _ => h.lt_length) held).trans h

/-- A broadcast is a round over the observers that the instance has. -/
theorem HasObservers.round_broadcast (h : w.HasObservers target observers) (tell : Tell)
    (name : String) (old : Option Nat) (number : Nat) :
    Round tell ⟨target, name, old, number⟩ (observers.map Item.observer) w
      (broadcastCalls tell ⟨target, name, old, number⟩ w)
      (broadcast tell ⟨target, name, old, number⟩ w) := by
  have hobservers : w.observersOf target = .ok (observers.map Item.observer) := h
  simp only [broadcast, broadcastCalls, hobservers]
  exact round_tellAll tell _ _ w

/-- Each broadcast goes over all observers if none of them fails or changes who they are. -/
theorem assignWith_calm {name : String} {number : Nat}
    (hstored : (w.store target name number).HasObservers target observers) {broadcasts : Nat}
    (hcalm : ∀ call ∈ assignWithCalls tell target name number broadcasts w,
      Calm target observers call) :
    (assignWith tell target name number broadcasts w).2 = .ok () ∧
      (assignWithCalls tell target name number broadcasts w).map (·.observer) =
        (List.replicate broadcasts observers).flatten := by
  induction broadcasts with
  | zero => exact ⟨rfl, rfl⟩
  | succ broadcasts ih =>
      rw [assignWithCalls, List.forall_mem_append] at hcalm
      obtain ⟨hearlier, hlast⟩ := hcalm
      obtain ⟨hok, hcalls⟩ := ih hearlier
      have htraced := traced_assignWith tell target name number broadcasts w
      obtain ⟨hmiddle, -⟩ := htraced.linked.keeps (P := fun w => w.HasObservers target observers)
        hstored fun call hcall => (hearlier call hcall).keeps
      rw [assignWith, assignWithCalls, List.map_append, hcalls, List.replicate_succ',
        List.flatten_append, List.flatten_singleton]
      rcases hassign : assignWith tell target name number broadcasts w with ⟨middle, fault | _⟩
      · rw [hassign] at hok
        cases hok
      · rw [hassign] at hmiddle hlast
        have hround := HasObservers.round_broadcast hmiddle tell name (w.own? target name) number
        have hend := hround.ok_of_calls fun call hcall => (hlast call hcall).ok
        exact ⟨hend, congrArg _ (hround.called_once.2 hend)⟩

/-- What is assigned holds no observers. -/
theorem eq_value_of_mem_items {value : Json} {items : List Item}
    (h : (Held.ofJson value).items = .ok items) {item : Item} (hitem : item ∈ items) :
    ∃ v, item = .value v := by
  cases value with
  | array values | string s | object members =>
      cases h
      obtain ⟨v, -, rfl⟩ := List.mem_map.1 hitem
      exact ⟨_, rfl⟩
  | _ => cases h

theorem broadcastCalls_of_ofJson {change : Change} {value : Json}
    (h : w.observersOf change.target = (Held.ofJson value).items) :
    broadcastCalls tell change w = [] := by
  simp only [broadcastCalls, h]
  cases hlist : (Held.ofJson value).items with
  | error fault => rfl
  | ok items =>
      cases items with
      | nil => rfl
      | cons item rest =>
          obtain ⟨v, rfl⟩ := eq_value_of_mem_items hlist List.mem_cons_self
          rfl

/-- Nobody is told of an assignment of the list of observers itself. -/
theorem assignWithCalls_observersName {i : Instance} {number : Nat}
    (hi : w.instance? target = some i) {value : Json}
    (hheld : w.heldAt number = Held.ofJson value) (broadcasts : Nat) :
    assignWithCalls tell target observersName number broadcasts w = [] := by
  have hown : (w.store target observersName number).own? target observersName = some number :=
    own?_store_self hi
  have hitems : (w.store target observersName number).observersOf target =
      (Held.ofJson value).items := by
    simp only [observersOf, hown]
    exact congrArg Held.items hheld
  induction broadcasts with
  | zero => rfl
  | succ broadcasts ih =>
      have hlinked := (traced_assignWith tell target observersName number broadcasts w).linked
      rw [assignWithCalls, ih, List.nil_append]
      rw [ih] at hlinked
      rcases hassign : assignWith tell target observersName number broadcasts w with
        ⟨middle, fault | _⟩
      · rfl
      · rw [hassign] at hlinked
        obtain rfl : middle = w.store target observersName number := hlinked
        exact broadcastCalls_of_ofJson hitems

end World

namespace Class

/-- Observers that neither fail nor change who observes an instance of the class are called so many
times for each assignment of an attribute, in so many rounds over them in their order. -/
def TellsTimes (c : Class) (times : Nat) : Prop :=
  ∀ (tell : Tell) (w : World) (target : Nat) (i : Instance) (name : String) (value : Json)
    (observers : List String), w.instance? target = some i → i.kind = c → name ≠ observersName →
    w.HasObservers target observers →
    (∀ call ∈ w.assignCalls tell target name value, Calm target observers call) →
    (w.assign tell target name value).2 = .ok () ∧
      (w.assignCalls tell target name value).map (·.observer) =
        (List.replicate times observers).flatten

/-- Whatever the observers of an instance of the class do, none of them is called again for one
assignment of an attribute, and each of them is called if none fails. -/
def TellsOnce (c : Class) : Prop :=
  ∀ (tell : Tell) (w : World) (target : Nat) (i : Instance) (name : String) (value : Json)
    (observers : List String), w.instance? target = some i → i.kind = c → name ≠ observersName →
    w.HasObservers target observers →
    (w.assignCalls tell target name value).map (·.observer) <+: observers ∧
      ((w.assign tell target name value).2 = .ok () →
        (w.assignCalls tell target name value).map (·.observer) = observers)

variable {c : Class}

theorem tellsTimes_broadcasts (hfrozen : c.frozen = false) : c.TellsTimes c.broadcasts := by
  rintro tell w target i name value observers hi rfl hname hobservers hcalm
  have hstored := hobservers.put hname (Held.ofJson value)
  simp only [World.assign, World.assignCalls, hi, hfrozen, Bool.false_eq_true, if_false] at hcalm ⊢
  exact World.assignWith_calm hstored hcalm

/-- A world with one instance of the class, which has one observer. -/
def observed (c : Class) : World where
  classes := [c]
  instances := [⟨"", c, [(observersName, 0)]⟩]
  held := [.list [.observer "A"]]

theorem tellsOnce_iff (hfrozen : c.frozen = false) : c.TellsOnce ↔ c.broadcasts = 1 := by
  constructor
  · intro honce
    -- The one observer of this world does nothing.
    let still : Tell := fun w _ _ => (w, .ok ())
    have hi : c.observed.instance? 0 = some ⟨"", c, [(observersName, 0)]⟩ := rfl
    have hobservers : c.observed.HasObservers 0 ["A"] := rfl
    have hcalm : ∀ call ∈ c.observed.assignCalls still 0 "" .null, Calm 0 ["A"] call := by
      intro call hcall
      have houtcome : call.outcome = (call.before, .ok ()) :=
        (World.traced_assign still hi hfrozen .null).real call hcall
      exact ⟨congrArg Prod.snd houtcome, fun h => houtcome ▸ h⟩
    obtain ⟨hok, hcalls⟩ := tellsTimes_broadcasts hfrozen still _ 0 _ "" .null ["A"] hi rfl
      (by decide) hobservers hcalm
    have hsame := hcalls.symm.trans
      ((honce still _ 0 _ "" .null ["A"] hi rfl (by decide) hobservers).2 hok)
    simpa using congrArg List.length hsame
  · rintro hbroadcasts tell w target i name value observers hi rfl hname hobservers
    obtain ⟨hassign, hcalls⟩ := World.assign_of_once tell name hi hfrozen hbroadcasts value
    rw [hassign, hcalls]
    exact ((hobservers.put hname _).round_broadcast tell name _ _).called_once

/-- A declared class tells its observers once if one class of its lineage is declared as observable,
and no other. -/
theorem declared_tellsOnce_iff {decls : List ClassDecl} (h : c ∈ declare decls)
    (hfrozen : c.frozen = false) :
    ∃ line, line ⊆ decls ∧ Lineage line c ∧
      (c.TellsOnce ↔ line.countP (·.observable) = 1) := by
  obtain ⟨line, hline, hlineage⟩ := exists_lineage h
  have hbroadcasts : c.broadcasts = wrappers (line.flatMap ClassDecl.forming) 0 := hlineage.formed
  refine ⟨line, hline, hlineage, ?_⟩
  rw [tellsOnce_iff hfrozen, hbroadcasts, wrappers_flatMap_forming]

/-- Along any chain of classes, whichever of them are made observable, when and how often: the
setter of a class broadcasts an assignment once for each of its wrappers, so observers are called
once if and only if there is one wrapper.  An assignment of the list of observers calls nobody. -/
theorem told_once_iff {history : List Forming} {place : Nat} (hformed : c.Formed history place)
    (hfrozen : c.frozen = false) :
    (∀ tell, setter tell history place = fun target name number =>
        World.assignWith tell target name number c.broadcasts) ∧
      c.TellsTimes (wrappers history place) ∧
      (c.TellsOnce ↔ wrappers history place = 1) ∧
      ∀ (tell : Tell) (w : World) (target : Nat) (i : Instance) (value : Json),
        w.instance? target = some i → i.kind = c →
        w.assignCalls tell target observersName value = [] := by
  have hbroadcasts : c.broadcasts = wrappers history place := hformed
  rw [← hbroadcasts]
  refine ⟨?_, tellsTimes_broadcasts hfrozen, tellsOnce_iff hfrozen, ?_⟩
  · intro tell
    rw [hbroadcasts]
    exact setter_eq_assignWith tell history place
  · rintro tell w target i value hi rfl
    have hheld := World.heldAt_hold_self w (Held.ofJson value)
    have hkept : (w.hold (Held.ofJson value)).1.instance? target = some i := hi
    simp only [World.assignCalls, hi, hfrozen, Bool.false_eq_true, if_false]
    exact World.assignWithCalls_observersName hkept hheld _

/-- A class that is observable, over one that is observable as well. -/
def special : ClassDecl :=
  ⟨"Special", [], true, false, some "Counter"⟩

theorem told_once_iff_special :
    ∃ c ∈ declare [World.counter, special],
      c.Formed [.derive, .decorate 0, .derive, .decorate 0] 0 ∧ c.frozen = false ∧
      c.TellsTimes 2 ∧ ¬ c.TellsOnce := by
  refine ⟨extend (extend ⟨"", [], [], false, 0⟩ World.counter) special, List.mem_cons_self, rfl,
    rfl, ?_⟩
  obtain ⟨-, htimes, honce, -⟩ :=
    @told_once_iff (extend (extend ⟨"", [], [], false, 0⟩ World.counter) special)
      [.derive, .decorate 0, .derive, .decorate 0] 0 rfl rfl
  refine ⟨htimes, ?_⟩
  intro h
  exact absurd (honce.1 h) (by decide)

/-- The observer of an instance of the class is called twice for one assignment. -/
theorem special_tells_twice :
    (World.run [World.counter, special] [.new "Special" "c" [], .observe "c" "first" "A" [] 1,
        .set "c" "value" (.integer 1)]).map (fun report => report.events.map (·.observer)) =
      [[], [], ["A", "A"]] := by
  decide +kernel

/-- A base that is made observable after the class adds no wrapper. -/
example : wrappers [.derive, .derive, .decorate 0, .decorate 1] 0 = 1 := by
  decide

end Class

end RecordMirror.Observation
