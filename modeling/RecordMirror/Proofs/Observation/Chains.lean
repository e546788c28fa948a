import Mathlib
import RecordMirror.Proofs.Observation.Rounds
/-!
What one registration is told of one attribute.  As long as observers neither assign nor delete
attributes and no round is broken off, every change of the attribute is told, and each begins with
what the one before it ended with.
-/

namespace RecordMirror.Observation

open Relation

/-- A step that assigns no attribute and deletes none. -/
def Step.LeavesAttributes (step : Step) : Prop :=
  (∀ name field value, step ≠ .set name field value) ∧ ∀ name field, step ≠ .delete name field

theorem World.not_rebinds_of_leavesAttributes {w : World} {target : Nat} {field : String}
    {step : Step} (hfield : field ≠ observersName) (h : step.LeavesAttributes) :
    ¬ w.Rebinds target field step := by
  intro hrebinds
  cases step with
  | set name other value => exact h.1 name other value rfl
  | delete name other => exact h.2 name other rfl
  | observe => exact hfield hrebinds.2.symm
  | new | get | append | unsubscribe | isObservable | isObservableClass | isObservableValue
  | observeClass | observeValue | fail => exact hrebinds

/-- Whether an element of a list is a certain observer. -/
def Item.isObserver (observer : String) : Item → Bool
  | .observer id => id = observer
  | .value _ => false

/-- Whether an observer is in the list of an instance. -/
def World.lists (w : World) (target : Nat) (observer : String) : Bool :=
  match w.observersOf target with
  | .ok observers => observers.any (·.isObserver observer)
  | .error _ => false

theorem World.lists_eq_true_iff {w : World} {target : Nat} {observer : String} :
    w.lists target observer = true ↔
      ∃ observers, w.observersOf target = .ok observers ∧ .observer observer ∈ observers := by
  unfold World.lists
  cases w.observersOf target with
  | error fault => simp
  | ok observers =>
      simp only [List.any_eq_true, Except.ok.injEq, exists_eq_left']
      constructor
      · rintro ⟨item, hitem, hobserver⟩
        cases item with
        | value value => cases hobserver
        | observer id => exact of_decide_eq_true hobserver ▸ hitem
      · exact fun h => ⟨_, h, decide_eq_true rfl⟩

theorem World.named_eq_ok_iff {w : World} {name : String} {target : Nat} :
    w.named name = .ok target ↔ valueOf? name w.names = some target := by
  unfold World.named
  cases valueOf? name w.names <;> simp

/-- A deletion is refused, or the instance does not have the attribute afterwards. -/
theorem World.delete_cases (w : World) (target : Nat) (field : String) :
    (∃ fault, w.delete target field = (w, .error fault)) ∨
      ∃ after, w.delete target field = (after, .ok ()) ∧ after.own? target field = none := by
  unfold World.delete
  cases hi : w.instance? target with
  | none => exact .inr ⟨w, rfl, by simp [own?, hi]⟩
  | some i =>
      simp only
      split
      · exact .inl ⟨_, rfl⟩
      · split
        · exact .inl ⟨_, rfl⟩
        · refine .inr ⟨_, rfl, ?_⟩
          exact (own?_remove w target target field field).trans (if_pos ⟨rfl, rfl⟩)

/-- What happens to an attribute: a registration is told of a change, or the attribute is
deleted. -/
inductive Entry
  | told (change : Change)
  | deleted
deriving DecidableEq, Repr

namespace Entry

/-- What the attribute holds from then on. -/
def left : Entry → Option Nat
  | told change => some change.new
  | deleted => none

/-- A change that is told next begins with what the attribute holds. -/
def Precedes (first second : Entry) : Prop :=
  ∀ change, second = told change → change.old = first.left

theorem exists_left_eq (held : Option Nat) : ∃ entry : Entry, entry.left = held := by
  cases held with
  | none => exact ⟨.deleted, rfl⟩
  | some number => exact ⟨.told ⟨0, "", none, number⟩, rfl⟩

/-- What happens to an attribute that holds one thing before and one after. -/
inductive Accounts (before after : Option Nat) : Option Entry → Prop
  | nothing (same : after = before) : Accounts before after none
  | told {change : Change} (old : change.old = before) (new : after = some change.new) :
      Accounts before after (some (told change))
  | deleted (gone : after = none) : Accounts before after (some deleted)

end Entry

namespace Moment

/-- The step deletes an attribute of an instance. -/
def deletes (target : Nat) (field : String) (m : Moment) : Bool :=
  match m.step, m.outcome.2 with
  | .delete name other, .ok _ => valueOf? name m.world.names = some target ∧ other = field
  | _, _ => false

/-- What happens to an attribute at a moment, as far as a registration of an observer is told. -/
def account? (observer : String) (target : Nat) (field : String) (m : Moment) : Option Entry :=
  match m.calls.find? fun call =>
    call.observer = observer ∧ call.change.target = target ∧ call.change.name = field with
  | some call => some (.told call.change)
  | none => if m.deletes target field then some .deleted else none

/-- An observer is registered with an instance of a class that was made observable once. -/
structure InPlace (observer : String) (target : Nat) (m : Moment) : Prop where
  once : ∃ i, m.world.instance? target = some i ∧ i.kind.broadcasts = 1
  listed : ∃ observers, m.world.observersOf target = .ok observers ∧
    .observer observer ∈ observers

instance (observer : String) (target : Nat) (m : Moment) : Decidable (m.InPlace observer target) :=
  decidable_of_iff ((∃ i ∈ m.world.instance? target, i.kind.broadcasts = 1) ∧
      m.world.lists target observer = true)
    ⟨fun h => ⟨h.1, World.lists_eq_true_iff.1 h.2⟩,
      fun h => ⟨h.once, World.lists_eq_true_iff.2 h.listed⟩⟩

/-- An assignment of the attribute that is not refused comes to its end: nobody fails. -/
def Unbroken (target : Nat) (field : String) (m : Moment) : Prop :=
  ∀ value i, m.Assigns target field value → m.world.instance? target = some i →
    i.kind.frozen = false → ∃ shown, m.outcome.2 = .ok shown

variable {leaves : List Leave} {m : Moment} {observer : String} {target : Nat} {field : String}

theorem account?_of_no_call (hcalls : ∀ call ∈ m.calls,
    ¬(call.observer = observer ∧ call.change.target = target ∧ call.change.name = field)) :
    m.account? observer target field =
      if m.deletes target field then some .deleted else none := by
  unfold account?
  rw [List.find?_eq_none.2 (by simpa using hcalls)]

/-- A change that everyone is told of is told to an observer that is registered. -/
theorem account?_of_told {change : Change} {observers : List Item}
    (hcalls : m.calls.map (fun call => (Item.observer call.observer, call.change)) =
      observers.map fun item => (item, change))
    (hlisted : .observer observer ∈ observers) (htarget : change.target = target)
    (hfield : change.name = field) : m.account? observer target field = some (.told change) := by
  have hchange : ∀ call ∈ m.calls, call.change = change := by
    intro call hcall
    have hmem := List.mem_map_of_mem (f := fun call : Call =>
      (Item.observer call.observer, call.change)) hcall
    rw [hcalls] at hmem
    obtain ⟨item, -, hitem⟩ := List.mem_map.1 hmem
    exact (congrArg Prod.snd hitem).symm
  obtain ⟨called, hcalled, hobserver⟩ : ∃ call ∈ m.calls, call.observer = observer := by
    have hmem := List.mem_map_of_mem (f := fun item : Item => (item, change)) hlisted
    rw [← hcalls] at hmem
    obtain ⟨call, hcall, heq⟩ := List.mem_map.1 hmem
    exact ⟨call, hcall, Item.observer.inj (congrArg Prod.fst heq)⟩
  unfold account?
  cases hfind : m.calls.find? fun call =>
      call.observer = observer ∧ call.change.target = target ∧ call.change.name = field with
  | some call => simp only [hchange call (List.mem_of_find?_eq_some hfind)]
  | none =>
      refine absurd ?_ (List.find?_eq_none.1 hfind called hcalled)
      simp [hchange called hcalled, hobserver, htarget, hfield]

/-- Observers that leave attributes alone do so at all moments that another leads to. -/
theorem LeadsTo.not_rebinds {later : Moment} (h : m.LeadsTo later) (hm : m.Regular leaves)
    (hleaves : ∀ leave ∈ leaves, ∀ step ∈ leave.steps, step.LeavesAttributes)
    (hfield : field ≠ observersName) : ¬ later.world.Rebinds target field later.step := by
  obtain ⟨leave, hleave, hstep⟩ := h.allowed hm
  exact World.not_rebinds_of_leavesAttributes hfield (hleaves leave hleave _ hstep)

/-- A change of the attribute is told to an observer that is registered. -/
theorem Assigns.account?_eq {value : Json} {i : Instance} (h : m.Assigns target field value)
    (hsound : m.world.Sound) (hi : m.world.instance? target = some i)
    (hfrozen : i.kind.frozen = false) (honce : i.kind.broadcasts = 1)
    (hfield : field ≠ observersName) {observers : List Item}
    (hlist : m.world.observersOf target = .ok observers) (hlisted : .observer observer ∈ observers)
    (hok : ∃ shown, m.outcome.2 = .ok shown) :
    m.account? observer target field =
      some (.told ⟨target, field, m.world.own? target field, m.world.held.length⟩) := by
  cases h.tells hsound hi hfrozen honce hfield (World.tell m.depth) with
  | unlistable _ hlist' => cases hlist.symm.trans hlist'
  | round _ hlist' houtcome hround =>
      cases hlist.symm.trans hlist'
      obtain ⟨shown, hok⟩ := hok
      rw [Moment.outcome, houtcome] at hok
      have hall := hround.complete (World.ok_of_withoutValue_ok hok)
      exact account?_of_told hall hlisted rfl rfl

/-- What comes of the deletion of the attribute is accounted for. -/
theorem accounts_of_delete {name : String} (hstep : m.step = .delete name field)
    (hname : m.world.named name = .ok target) :
    Entry.Accounts (m.world.own? target field) (m.outcome.1.own? target field)
      (m.account? observer target field) := by
  have hcalls : m.calls = [] := by
    unfold Moment.calls
    rw [hstep]
    rfl
  have houtcome : m.outcome = World.withoutValue (m.world.delete target field) := by
    unfold Moment.outcome
    rw [hstep]
    exact World.withInstance_of_named hname _
  have hvalue := World.named_eq_ok_iff.1 hname
  rw [account?_of_no_call (by simp [hcalls])]
  rcases World.delete_cases m.world target field with
    ⟨fault, hdelete⟩ | ⟨after, hdelete, hgone⟩
  · rw [hdelete] at houtcome
    have hdeletes : m.deletes target field = false := by
      simp [deletes, hstep, houtcome, World.withoutValue]
    rw [hdeletes, houtcome]
    exact .nothing rfl
  · rw [hdelete] at houtcome
    have hdeletes : m.deletes target field = true := by
      simp [deletes, hstep, houtcome, hvalue, World.withoutValue]
    rw [hdeletes, houtcome]
    exact .deleted hgone

/-- Calls about the attribute are made by its assignments only. -/
theorem not_called_of_not_assigns (h : ¬∃ value, m.Assigns target field value) :
    ∀ call ∈ m.calls, ¬(call.change.target = target ∧ call.change.name = field) := by
  rintro call hcall ⟨rfl, rfl⟩
  by_cases hset : ∃ name field value, m.step = .set name field value
  · obtain ⟨name, field, value, hstep⟩ := hset
    cases hname : m.world.named name with
    | error fault =>
        unfold Moment.calls at hcall
        rw [hstep] at hcall
        simp only [World.callsOf, hname] at hcall
        cases hcall
    | ok place =>
        have hassigns : m.Assigns place field value := ⟨name, hstep, hname⟩
        unfold Moment.calls at hcall
        rw [(hassigns.takeStep_eq _).2] at hcall
        obtain ⟨htarget, hfield⟩ := World.change_of_mem_assignCalls hcall
        rw [htarget, hfield] at h
        exact h ⟨value, hassigns⟩
  · have hnone : m.calls = [] :=
      World.callsOf_of_not_set fun name field value hstep => hset ⟨name, field, value, hstep⟩
    rw [hnone] at hcall
    cases hcall

/-- A step that neither assigns the attribute nor deletes it does not bind it anew. -/
theorem not_rebinds_of_neither (hfield : field ≠ observersName)
    (hassigns : ¬∃ value, m.Assigns target field value)
    (hdelete : ¬∃ name, m.step = .delete name field ∧ m.world.named name = .ok target) :
    ¬ m.world.Rebinds target field m.step := by
  intro hrebinds
  cases hstep : m.step with
  | set name other value =>
      rw [hstep] at hrebinds
      obtain ⟨hname, rfl⟩ := hrebinds
      exact hassigns ⟨value, name, hstep, hname⟩
  | delete name other =>
      rw [hstep] at hrebinds
      obtain ⟨hname, rfl⟩ := hrebinds
      exact hdelete ⟨name, hstep, hname⟩
  | observe =>
      rw [hstep] at hrebinds
      exact hfield hrebinds.2.symm
  | new | get | append | unsubscribe | isObservable | isObservableClass
  | isObservableValue | observeClass | observeValue | fail =>
      rw [hstep] at hrebinds
      exact hrebinds

theorem deletes_eq_false
    (hdelete : ¬∃ name, m.step = .delete name field ∧ m.world.named name = .ok target) :
    m.deletes target field = false := by
  unfold deletes
  split
  · rename_i name other _ hstep _
    refine decide_eq_false ?_
    rintro ⟨hname, rfl⟩
    exact hdelete ⟨name, hstep, World.named_eq_ok_iff.2 hname⟩
  · rfl

/-- An assignment accounts for what the attribute holds: nothing has happened where the instance is
frozen, and the registration is told of it where it is not. -/
theorem accounts_of_assigns (hm : m.Regular leaves) (hfield : field ≠ observersName)
    (hplace : m.InPlace observer target) (hunbroken : m.Unbroken target field)
    (hlater : ∀ later, m.LeadsTo later → ¬ later.world.Rebinds target field later.step)
    {value : Json} (hassigns : m.Assigns target field value) :
    Entry.Accounts (m.world.own? target field) (m.outcome.1.own? target field)
      (m.account? observer target field) := by
  obtain ⟨i, hi, honce⟩ := hplace.once
  obtain ⟨observers, hlist, hlisted⟩ := hplace.listed
  cases hfrozen : i.kind.frozen with
  | true =>
      obtain ⟨houtcome, hcalls⟩ := hassigns.refused hi hfrozen (World.tell m.depth)
      have hdeletes : m.deletes target field = false := by
        obtain ⟨name, hstep, -⟩ := hassigns
        exact deletes_eq_false (by simp [hstep])
      rw [account?_of_no_call (by simp [Moment.calls, hcalls]), hdeletes, Moment.outcome, houtcome]
      exact .nothing rfl
  | false =>
      rw [hassigns.account?_eq hm.world.sound hi hfrozen honce hfield hlist hlisted
        (hunbroken value i hassigns hi hfrozen)]
      exact .told rfl (hassigns.stays hm hi hfrozen hlater)

/-- What happens to the attribute at a moment accounts for what it holds afterwards. -/
theorem accounts (hm : m.Regular leaves)
    (hleaves : ∀ leave ∈ leaves, ∀ step ∈ leave.steps, step.LeavesAttributes)
    (hfield : field ≠ observersName) (hplace : m.InPlace observer target)
    (hunbroken : m.Unbroken target field) :
    Entry.Accounts (m.world.own? target field) (m.outcome.1.own? target field)
      (m.account? observer target field) := by
  have hlater : ∀ later, m.LeadsTo later → ¬ later.world.Rebinds target field later.step :=
    fun later hlater => hlater.not_rebinds hm hleaves hfield
  by_cases hassigns : ∃ value, m.Assigns target field value
  · obtain ⟨value, hassigns⟩ := hassigns
    exact accounts_of_assigns hm hfield hplace hunbroken hlater hassigns
  by_cases hdelete : ∃ name, m.step = .delete name field ∧ m.world.named name = .ok target
  · obtain ⟨name, hstep, hname⟩ := hdelete
    exact accounts_of_delete hstep hname
  -- Neither the step nor any that it leads to binds the attribute, and nobody is told of it.
  obtain ⟨i, hi, -⟩ := hplace.once
  have hcalls := not_called_of_not_assigns hassigns
  rw [account?_of_no_call fun call hcall h => hcalls call hcall h.2, deletes_eq_false hdelete]
  refine .nothing (hm.own?_eq (World.lt_length_of_instance? hi) ?_)
  intro later hincludes
  rcases reflTransGen_iff_eq_or_transGen.1 hincludes with rfl | hleads
  · exact not_rebinds_of_neither hfield hassigns hdelete
  · exact hlater later hleads

/-- The next step of a script is taken in the world that the one before it has left. -/
def Continues (m next : Moment) : Prop :=
  next.world = { m.outcome.1 with events := [] }

theorem Continues.own?_eq {next : Moment} (h : m.Continues next) :
    next.world.own? target field = m.outcome.1.own? target field := by
  rw [h]
  rfl

/-- What is accounted for at each moment of a stretch forms a chain, from what the attribute held
before it. -/
theorem isChain_entries {stretch : List Moment} (hlinked : stretch.IsChain Continues)
    (haccounts : ∀ m ∈ stretch, Entry.Accounts (m.world.own? target field)
      (m.outcome.1.own? target field) (m.account? observer target field))
    (start : Entry) (hstart : ∀ m ∈ stretch.head?, m.world.own? target field = start.left) :
    (start :: stretch.filterMap (account? observer target field)).IsChain Entry.Precedes := by
  induction stretch generalizing start with
  | nil => exact List.isChain_singleton start
  | cons m rest ih =>
      obtain ⟨hnext, hlinked⟩ := List.isChain_cons.1 hlinked
      have hrest := ih hlinked fun later hlater => haccounts later (List.mem_cons_of_mem m hlater)
      have hbefore := hstart m rfl
      have hnow := haccounts m List.mem_cons_self
      rw [List.filterMap_cons]
      generalize m.account? observer target field = entry at hnow ⊢
      cases hnow with
      | nothing same =>
          exact hrest start fun next hmem => (hnext next hmem).own?_eq.trans (same.trans hbefore)
      | @told change old new =>
          refine List.isChain_cons_cons.2 ⟨?_, hrest (.told change) fun next hmem =>
            (hnext next hmem).own?_eq.trans new⟩
          rintro _ ⟨⟩
          exact old.trans hbefore
      | deleted gone =>
          refine List.isChain_cons_cons.2 ⟨nofun, hrest .deleted fun next hmem =>
            (hnext next hmem).own?_eq.trans gone⟩

end Moment

namespace World

theorem moments_isChain (depth : Nat) (w : World) (steps : List Step) :
    (moments depth w steps).IsChain Moment.Continues := by
  induction steps generalizing w with
  | nil => exact List.isChain_nil
  | cons step rest ih =>
      rw [moments]
      refine List.isChain_cons.2 ⟨?_, ih _⟩
      intro next hnext
      cases rest with
      | nil => cases hnext
      | cons _ _ =>
          cases hnext
          rfl

/-- The run of a script is made of its moments, and all moments, those included at which observers
take steps, keep to the rules of assignments and registrations.  If observers neither assign nor
delete attributes, then over any stretch of a run during which an observer is registered and nobody
fails, it is told of every change of an attribute, and each of them begins with what the one before
ended with, or with nothing if the attribute has been deleted since. -/
theorem observers_told_over_runs (decls : List ClassDecl) (script : List Step) :
    run decls script = (runMoments decls script).map Moment.report ∧
      (∀ m : Moment, m.InRun decls script → m.Lawful) ∧
      ((∀ leave ∈ leavesOf script, ∀ step ∈ leave.steps, step.LeavesAttributes) →
        ∀ observer target field, field ≠ observersName →
        ∀ stretch, stretch <:+: runMoments decls script →
        (∀ m ∈ stretch, m.InPlace observer target) → (∀ m ∈ stretch, m.Unbroken target field) →
        (stretch.filterMap (Moment.account? observer target field)).IsChain Entry.Precedes ∧
          ∀ m ∈ stretch, ∀ value i, m.Assigns target field value →
            m.world.instance? target = some i → i.kind.frozen = false →
            m.account? observer target field =
              some (.told ⟨target, field, m.world.own? target field, m.world.held.length⟩)) := by
  refine ⟨run_eq_map_report decls script, fun m hm => hm.regular.lawful, ?_⟩
  intro hleaves observer target field hfield stretch hstretch hplace hunbroken
  have hregular : ∀ m ∈ stretch, m.Regular (leavesOf script) := fun m hm =>
    Moment.InRun.regular ⟨m, hstretch.subset hm, .refl⟩
  constructor
  · obtain ⟨earlier, later, hsplit⟩ := hstretch
    have hlinked : (earlier ++ stretch ++ later).IsChain Moment.Continues :=
      hsplit ▸ moments_isChain _ _ script
    replace hlinked : stretch.IsChain Moment.Continues := hlinked.left_of_append.right_of_append
    have haccounts : ∀ m ∈ stretch, Entry.Accounts (m.world.own? target field)
        (m.outcome.1.own? target field) (m.account? observer target field) := fun m hm =>
      Moment.accounts (hregular m hm) hleaves hfield (hplace m hm) (hunbroken m hm)
    obtain ⟨start, hstart⟩ := Entry.exists_left_eq
      (stretch.head?.bind fun m => m.world.own? target field)
    refine (Moment.isChain_entries hlinked haccounts start ?_).tail
    intro m hm
    rw [hstart, Option.mem_def.1 hm]
    rfl
  · intro m hm value i hassigns hi hfrozen
    obtain ⟨i', hi', honce⟩ := (hplace m hm).once
    obtain ⟨observers, hlist, hlisted⟩ := (hplace m hm).listed
    cases hi.symm.trans hi'
    exact hassigns.account?_eq (hregular m hm).world.sound hi hfrozen honce hfield hlist hlisted
      (hunbroken m hm value i hassigns hi hfrozen)

/-- Observers that assign, end registrations and fail while they are told of a change. -/
def entangled : List Step :=
  [.new "Counter" "c" [],
    .observe "c" "first" "A" [.set "c" "value" (.integer 2), .unsubscribe "second", .fail "no"] 1,
    .observe "c" "second" "B" [] 1, .set "c" "value" (.integer 1)]

/-- An observer that registers others and ends their registrations. -/
def calm : List Step :=
  [.new "Counter" "c" [],
    .observe "c" "first" "A" [.observe "c" "other" "B" [] 1, .unsubscribe "other"] 2,
    .set "c" "value" (.integer 1), .delete "c" "value", .set "c" "value" (.integer 2),
    .set "c" "value" (.integer 3)]

theorem observers_told_over_runs_counter :
    (∃ m : Moment, m.InRun [counter] entangled ∧ m.depth = 1 ∧
      ∀ tell, m.Tells tell 0 "value" (.integer 2)) ∧
    (∀ leave ∈ leavesOf calm, ∀ step ∈ leave.steps, step.LeavesAttributes) ∧
    (∀ m ∈ (runMoments [counter] calm).drop 2, m.InPlace "A" 0) ∧
    (∀ m ∈ (runMoments [counter] calm).drop 2, m.Unbroken 0 "value") ∧
    (((runMoments [counter] calm).drop 2).filterMap (Moment.account? "A" 0 "value")).IsChain
      Entry.Precedes ∧
    ((runMoments [counter] calm).drop 2).filterMap (Moment.account? "A" 0 "value") =
      [.told ⟨0, "value", some 0, 2⟩, .deleted, .told ⟨0, "value", none, 3⟩,
        .told ⟨0, "value", some 3, 4⟩] := by
  refine ⟨?_, ?_⟩
  · let first := (runMoments [counter] entangled).get ⟨3, by decide⟩
    have hreaction : (first.calls.head?.map fun call =>
        valueOf? call.observer call.before.reactions) = some (some
          ⟨[.set "c" "value" (.integer 2), .unsubscribe "second", .fail "no"], 1⟩) := by cbv
    have hname : (first.calls.head?.map fun call => valueOf? "c" call.before.names) =
        some (some 0) := by decide +kernel
    have hkind : (first.calls.head?.map fun call => (call.before.instance? 0).map fun i =>
        (i.kind.frozen, i.kind.broadcasts)) = some (some (false, 1)) := by decide +kernel
    obtain ⟨call, hcall, hreaction⟩ := Option.map_eq_some_iff.1 hreaction
    rw [hcall, Option.map_some, Option.some.injEq] at hname hkind
    obtain ⟨i, hi, hi'⟩ := Option.map_eq_some_iff.1 hkind
    obtain ⟨hfrozen, honce⟩ := Prod.mk.inj hi'
    let later : Moment := ⟨1, call.before.enter call.observer call.change
      ⟨[.set "c" "value" (.integer 2), .unsubscribe "second", .fail "no"], 0⟩,
      .set "c" "value" (.integer 2)⟩
    have hreacts : first.Reacts later :=
      @Moment.Reacts.intro first later call [] _ _ (List.mem_of_head? hcall) rfl hreaction rfl
    have hrun : later.InRun [counter] entangled := ⟨first, List.get_mem _ _, .single hreacts⟩
    have hassigns : later.Assigns 0 "value" (.integer 2) := ⟨"c", rfl, named_eq_ok_iff.2 hname⟩
    exact ⟨later, hrun, rfl, ((observers_told_over_runs [counter] entangled).2.1 later hrun).tells
      hassigns hi hfrozen honce (by decide)⟩
  · have hleaves : ∀ leave ∈ leavesOf calm, ∀ step ∈ leave.steps, step.LeavesAttributes := by
      simp [calm, leavesOf, Step.leaves, Step.LeavesAttributes]
    have hplace : ∀ m ∈ (runMoments [counter] calm).drop 2, m.InPlace "A" 0 := by decide +kernel
    have hends : ∀ m ∈ (runMoments [counter] calm).drop 2, m.outcome.2.toBool = true := by
      decide +kernel
    have hunbroken : ∀ m ∈ (runMoments [counter] calm).drop 2, m.Unbroken 0 "value" := by
      intro m hm value i _ _ _
      have hok := hends m hm
      generalize m.outcome.2 = result at hok
      rcases result with fault | shown
      · cases hok
      · exact ⟨shown, rfl⟩
    refine ⟨hleaves, hplace, hunbroken, ?_, by decide +kernel⟩
    exact ((observers_told_over_runs [counter] calm).2.2 hleaves "A" 0 "value" (by decide) _
      (List.drop_suffix 2 _).isInfix hplace hunbroken).1

end World

end RecordMirror.Observation
