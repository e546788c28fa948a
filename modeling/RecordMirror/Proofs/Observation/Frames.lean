import RecordMirror.Proofs.Observation.Moments
/-!
What is left alone.  An attribute holds what it held unless a step names it, be it a step of the
script or one that an observer takes; the list that it holds is the same unless a step extends it or
takes from it.
-/

namespace RecordMirror.Observation

namespace World

/-- A step that may let an attribute of an instance hold something else. -/
def Rebinds (w : World) (target : Nat) (name : String) : Step → Prop
  | .set other field _ => w.named other = .ok target ∧ field = name
  | .delete other field => w.named other = .ok target ∧ field = name
  | .observe other _ _ _ _ => w.named other = .ok target ∧ observersName = name
  | _ => False

/-- A step that may change, in place, what an attribute of an instance holds. -/
def Mutates (w : World) (target : Nat) (name : String) : Step → Prop
  | .append other field _ => w.named other = .ok target ∧ field = name
  | .observe other _ _ _ _ => w.named other = .ok target ∧ observersName = name
  | .unsubscribe subscription => ∃ found, valueOf? subscription w.subscriptions = some found ∧
      w.own? target name = some found.list
  | _ => False

/-- A step that may change an attribute of an instance. -/
def Touches (w : World) (target : Nat) (name : String) (step : Step) : Prop :=
  w.Rebinds target name step ∨ w.Mutates target name step

theorem length_instances_put (w : World) (target : Nat) (name : String) (held : Held) :
    (w.put target name held).instances.length = w.instances.length := by
  simp [put, hold, store, modifyAttributes]

theorem length_instances_remove (w : World) (target : Nat) (name : String) :
    (w.remove target name).instances.length = w.instances.length := by
  simp [remove, modifyAttributes]

@[simp] theorem instances_introduce (w : World) (observer : String) (steps : List Step)
    (times : Nat) : (w.introduce observer steps times).instances = w.instances := by
  unfold introduce
  split <;> rfl

variable {w after : World} {step : Step} {target : Nat} {name : String}

/-- No instance is lost. -/
theorem Effect.instances_le (h : Effect w step after) :
    w.instances.length ≤ after.instances.length := by
  cases h with
  | nothing | extended | ended => exact Nat.le_refl _
  | stored => exact Nat.le_of_eq (length_instances_put _ _ _ _).symm
  | made => simp [extend]
  | removed => exact Nat.le_of_eq (length_instances_remove _ _ _).symm
  | introduced => simp
  | joined => simp [setHeld, record]
  | opened => simp [record, length_instances_put]

theorem Effect.own?_eq (h : Effect w step after) (htarget : target < w.instances.length)
    (hstep : ¬ w.Rebinds target name step) : after.own? target name = w.own? target name := by
  cases h with
  | nothing | extended | ended => rfl
  | stored found =>
      refine own?_put_of_ne ?_
      rintro ⟨rfl, rfl⟩
      exact hstep ⟨found, rfl⟩
  | @made _ _ _ i more => exact own?_extend_of_ne (Nat.ne_of_lt htarget) i more name
  | removed found =>
      rw [own?_remove, if_neg]
      rintro ⟨rfl, rfl⟩
      exact hstep ⟨found, rfl⟩
  | introduced => exact own?_introduce _ _ _ _ _ _
  | joined => exact own?_introduce _ _ _ _ _ _
  | opened found =>
      refine (own?_put_of_ne ?_).trans (own?_introduce _ _ _ _ _ _)
      rintro ⟨rfl, rfl⟩
      exact hstep ⟨found, rfl⟩

theorem Effect.heldAt_eq (h : Effect w step after) (hsound : Sound w) {number : Nat}
    (hown : w.own? target name = some number) (hstep : ¬ w.Mutates target name step) :
    after.heldAt number = w.heldAt number := by
  have hnumber := hsound.held hown
  cases h with
  | nothing | removed => rfl
  | stored => exact heldAt_put hnumber
  | @made _ _ _ i more => exact heldAt_extend hnumber i more
  | extended found own =>
      refine heldAt_setHeld_of_ne _ ?_
      rintro rfl
      obtain ⟨rfl, rfl⟩ := hsound.apart own hown
      exact hstep ⟨found, rfl⟩
  | introduced => exact heldAt_introduce _ _ _ _ _
  | joined found own =>
      refine (heldAt_setHeld_of_ne _ ?_).trans (heldAt_introduce _ _ _ _ _)
      rintro rfl
      obtain ⟨rfl, rfl⟩ := hsound.apart own hown
      exact hstep ⟨found, rfl⟩
  | @opened _ _ observer steps times place =>
      have hput : ((w.introduce observer steps times).put place observersName
          (.list [.observer observer])).heldAt number =
          (w.introduce observer steps times).heldAt number := heldAt_put (by simpa using hnumber)
      exact hput.trans (heldAt_introduce _ _ _ _ _)
  | ended named =>
      refine heldAt_setHeld_of_ne _ ?_
      rintro rfl
      exact hstep ⟨_, named, hown⟩

theorem lt_length_of_instance? {i : Instance} (hi : w.instance? target = some i) :
    target < w.instances.length :=
  (List.getElem?_eq_some_iff.1 hi).1

theorem lt_length_of_own? {number : Nat} (h : w.own? target name = some number) :
    target < w.instances.length := by
  cases hi : w.instance? target with
  | none => simp [own?, hi] at h
  | some i => exact lt_length_of_instance? hi

/-- An attribute of an instance holds what has some number. -/
structure Binds (target : Nat) (name : String) (bound : Option Nat) (w : World) : Prop where
  exists_instance : target < w.instances.length
  own : w.own? target name = bound

theorem Binds.effect {bound : Option Nat} (h : Binds target name bound w)
    (heffect : Effect w step after) (hstep : ¬ w.Rebinds target name step) :
    Binds target name bound after :=
  ⟨Nat.lt_of_lt_of_le h.exists_instance heffect.instances_le,
    (heffect.own?_eq h.exists_instance hstep).trans h.own⟩

/-- An attribute of an instance holds something, under some number. -/
structure Holds (target : Nat) (name : String) (number : Nat) (held : Held) (w : World) : Prop where
  own : w.own? target name = some number
  held : w.heldAt number = held

theorem Holds.effect {number : Nat} {held : Held} (h : Holds target name number held w)
    (hsound : Sound w) (heffect : Effect w step after) (hstep : ¬ w.Touches target name step) :
    Holds target name number held after where
  own := (heffect.own?_eq (lt_length_of_own? h.own) fun hrebinds =>
    hstep (.inl hrebinds)).trans h.own
  held := (heffect.heldAt_eq hsound h.own fun hmutates => hstep (.inr hmutates)).trans h.held

end World

namespace Moment

variable {leaves : List Leave} {m : Moment} {target : Nat} {name : String}

/-- An attribute holds what it held if no step that the moment includes names it. -/
theorem Regular.own?_eq (h : m.Regular leaves) (htarget : target < m.world.instances.length)
    (hsteps : ∀ later, m.Includes later → ¬ later.world.Rebinds target name later.step) :
    m.outcome.1.own? target name = m.world.own? target name := by
  have hkept := h.keeps (P := World.Binds target name (m.world.own? target name))
    (fun _ _ _ hw => ⟨hw.exists_instance, hw.own⟩) ?_ ⟨htarget, rfl⟩
  · exact hkept.after.2.own
  · intro later hlater _ _ hbinds after heffect
    exact hbinds.effect heffect (hsteps later hlater)

/-- What an attribute holds is as it was if no step that the moment includes touches it. -/
theorem Regular.heldAt_eq (h : m.Regular leaves) {number : Nat}
    (hown : m.world.own? target name = some number)
    (hsteps : ∀ later, m.Includes later → ¬ later.world.Touches target name later.step) :
    m.outcome.1.heldAt number = m.world.heldAt number := by
  have hkept := h.keeps (P := World.Holds target name number (m.world.heldAt number))
    (fun _ _ _ hw => ⟨hw.own, hw.held⟩) ?_ ⟨hown, rfl⟩
  · exact hkept.after.2.held
  · intro later hlater _ horderly hholds after heffect
    exact hholds.effect horderly.sound heffect (hsteps later hlater)

end Moment

end RecordMirror.Observation
