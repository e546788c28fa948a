import Mathlib.Algebra.Ring.Nat
import RecordMirror.Proofs.Observation.Effects
/-!
What holds of the world at all moments of a run.  No two attributes share what they hold.  And the
leave that observers still have, together with what those who are yet to be introduced will get,
only becomes less: this is why no run is ever cut short.
-/

namespace RecordMirror.Observation

/-! ### Leave -/

/-- The leave of an observer to take some steps a number of times. -/
structure Leave where
  observer : String
  steps : List Step
  times : Nat

mutual

/-- The leave that a step would give, and what steps that are taken by that leave would give. -/
def Step.leaves : Step → List Leave
  | .observe _ _ observer steps times => ⟨observer, steps, times⟩ :: leavesOf steps
  | _ => []

/-- The leave that some steps would give. -/
def leavesOf : List Step → List Leave
  | [] => []
  | step :: rest => step.leaves ++ leavesOf rest

end

mutual

theorem Step.reactions_eq_sum : ∀ step : Step, step.reactions = (step.leaves.map (·.times)).sum
  | .observe _ _ _ steps _ => by
      simp only [Step.reactions, Step.leaves, List.map_cons, List.sum_cons,
        reactionsOf_eq_sum steps]
  | .new .. | .set .. | .get .. | .delete .. | .append .. | .unsubscribe _ | .isObservable _
  | .isObservableClass _ | .isObservableValue _ | .observeClass _ | .observeValue _ | .fail _ => by
      simp [Step.reactions, Step.leaves]

theorem reactionsOf_eq_sum : ∀ steps : List Step,
    reactionsOf steps = ((leavesOf steps).map (·.times)).sum
  | [] => rfl
  | step :: rest => by
      simp only [reactionsOf, leavesOf, List.map_append, List.sum_append,
        Step.reactions_eq_sum step, reactionsOf_eq_sum rest]

end

theorem leaves_subset_leavesOf {step : Step} {steps : List Step} (h : step ∈ steps) :
    step.leaves ⊆ leavesOf steps := by
  induction steps with
  | nil => cases h
  | cons head rest ih =>
      rw [leavesOf]
      rcases List.mem_cons.1 h with rfl | h
      · exact List.subset_append_left _ _
      · exact List.Subset.trans (ih h) (List.subset_append_right _ _)

/-- The leave that observers have. -/
def leaveLeft (reactions : List (String × Reaction)) : Nat :=
  (reactions.map (·.2.left)).sum

/-- The leave that observers will be given who have none yet. -/
def leaveToCome (leaves : List Leave) (reactions : List (String × Reaction)) : Nat :=
  (leaves.map fun leave =>
    if (valueOf? leave.observer reactions).isSome then 0 else leave.times).sum

theorem leaveLeft_setValue_of_some {observer : String} {before : Reaction} (after : Reaction)
    {reactions : List (String × Reaction)} (h : valueOf? observer reactions = some before) :
    leaveLeft (setValue observer after reactions) + before.left =
      leaveLeft reactions + after.left := by
  induction reactions with
  | nil => cases h
  | cons head rest ih =>
      obtain ⟨name, reaction⟩ := head
      rw [valueOf?_cons] at h
      simp only [leaveLeft, setValue] at ih ⊢
      split at h
      · rename_i hname
        cases h
        simp only [hname, if_true, List.map_cons, List.sum_cons]
        omega
      · rename_i hname
        have hrest := ih h
        simp only [hname, if_false, List.map_cons, List.sum_cons]
        omega

theorem leaveLeft_setValue_of_none {observer : String} (after : Reaction)
    {reactions : List (String × Reaction)} (h : valueOf? observer reactions = none) :
    leaveLeft (setValue observer after reactions) = leaveLeft reactions + after.left := by
  induction reactions with
  | nil => simp [leaveLeft, setValue]
  | cons head rest ih =>
      obtain ⟨name, reaction⟩ := head
      rw [valueOf?_cons] at h
      simp only [leaveLeft, setValue] at ih ⊢
      split at h
      · cases h
      · rename_i hname
        have hrest := ih h
        simp only [hname, if_false, List.map_cons, List.sum_cons]
        omega

theorem leaveToCome_cons (leave : Leave) (leaves : List Leave)
    (reactions : List (String × Reaction)) :
    leaveToCome (leave :: leaves) reactions =
      (if (valueOf? leave.observer reactions).isSome then 0 else leave.times) +
        leaveToCome leaves reactions := by
  simp only [leaveToCome, List.map_cons, List.sum_cons]

theorem leaveToCome_setValue_le (leaves : List Leave) (observer : String)
    (after : Reaction) (reactions : List (String × Reaction)) :
    leaveToCome leaves (setValue observer after reactions) ≤ leaveToCome leaves reactions := by
  induction leaves with
  | nil => exact Nat.le_refl _
  | cons leave rest ih =>
      rw [leaveToCome_cons, leaveToCome_cons, valueOf?_setValue]
      refine Nat.add_le_add ?_ ih
      split <;> simp

/-- An observer that is introduced is given what it was to come by. -/
theorem leaveToCome_setValue_add_le {leaves : List Leave} {leave : Leave} (hmem : leave ∈ leaves)
    (after : Reaction) {reactions : List (String × Reaction)}
    (h : valueOf? leave.observer reactions = none) :
    leaveToCome leaves (setValue leave.observer after reactions) + leave.times ≤
      leaveToCome leaves reactions := by
  induction leaves with
  | nil => cases hmem
  | cons head rest ih =>
      rw [leaveToCome_cons, leaveToCome_cons, valueOf?_setValue]
      rcases List.mem_cons.1 hmem with rfl | hmem
      · have hrest := leaveToCome_setValue_le rest leave.observer after reactions
        simp only [h, if_true, Option.isSome_some, Option.isSome_none, Bool.false_eq_true, if_false]
        omega
      · have hrest := ih hmem
        split <;> simp <;> omega

/-- A list of leaves gives observers leave to take some steps, and to give what leave these give. -/
structure Allows (leaves : List Leave) (steps : List Step) : Prop where
  listed : ∃ leave ∈ leaves, leave.steps = steps
  subset : leavesOf steps ⊆ leaves

/-- The observers stay within some leave: what they have, and what they will be given by the steps
of a script, is no more than a bound. -/
structure Within (leaves : List Leave) (bound : Nat) (reactions : List (String × Reaction)) :
    Prop where
  allowed : ∀ observer reaction, valueOf? observer reactions = some reaction →
    Allows leaves reaction.steps
  bounded : leaveLeft reactions + leaveToCome leaves reactions ≤ bound

variable {leaves : List Leave} {bound : Nat} {reactions : List (String × Reaction)}

theorem Within.mono {larger : Nat} (h : Within leaves bound reactions) (hle : bound ≤ larger) :
    Within leaves larger reactions :=
  ⟨h.allowed, Nat.le_trans h.bounded hle⟩

theorem Within.allowed_setValue (h : Within leaves bound reactions) {observer : String}
    {after : Reaction} (hafter : Allows leaves after.steps) :
    ∀ other reaction, valueOf? other (setValue observer after reactions) = some reaction →
      Allows leaves reaction.steps := by
  intro other reaction hreaction
  rw [valueOf?_setValue] at hreaction
  split at hreaction
  · cases hreaction
    exact hafter
  · exact h.allowed other reaction hreaction

/-- An observer that takes its steps has leave to do so, and then has one less. -/
theorem Within.spend (h : Within leaves bound reactions) {observer : String} {steps : List Step}
    {left : Nat} (hreaction : valueOf? observer reactions = some ⟨steps, left + 1⟩) :
    ∃ rest, bound = rest + 1 ∧ Within leaves rest (setValue observer ⟨steps, left⟩ reactions) := by
  have hspent := leaveLeft_setValue_of_some ⟨steps, left⟩ hreaction
  have hcome := leaveToCome_setValue_le leaves observer ⟨steps, left⟩ reactions
  have hbound := h.bounded
  simp only at hspent
  refine ⟨bound - 1, by omega, h.allowed_setValue ?_, by omega⟩
  exact h.allowed observer ⟨steps, left + 1⟩ hreaction

theorem Within.introduce {w : World} (h : Within leaves bound w.reactions) {observer : String}
    {steps : List Step} {times : Nat} (hmem : ⟨observer, steps, times⟩ ∈ leaves)
    (hsteps : leavesOf steps ⊆ leaves) :
    Within leaves bound (w.introduce observer steps times).reactions := by
  unfold World.introduce
  cases hreaction : valueOf? observer w.reactions with
  | some reaction => exact h
  | none =>
      refine ⟨h.allowed_setValue ⟨⟨_, hmem, rfl⟩, hsteps⟩, ?_⟩
      have hgiven := leaveLeft_setValue_of_none ⟨steps, times⟩ hreaction
      have hcome := leaveToCome_setValue_add_le hmem ⟨steps, times⟩ hreaction
      have hbound := h.bounded
      simp only at hgiven hcome ⊢
      omega

/-! ### What attributes hold -/

namespace World

/-- What an attribute holds is held, and no other attribute holds the same. -/
structure Sound (w : World) : Prop where
  held : ∀ {target name number}, w.own? target name = some number → number < w.held.length
  apart : ∀ {target other name field number}, w.own? target name = some number →
    w.own? other field = some number → target = other ∧ name = field

variable {w : World}

theorem Sound.of_same_own (h : Sound w) {after : World}
    (hown : ∀ target name, after.own? target name = w.own? target name)
    (hsize : w.held.length ≤ after.held.length) : Sound after where
  held hnumber := Nat.lt_of_lt_of_le (h.held (hown _ _ ▸ hnumber)) hsize
  apart hfirst hsecond := h.apart (hown _ _ ▸ hfirst) (hown _ _ ▸ hsecond)

theorem own?_put_eq {target number : Nat} {name : String} {held : Held}
    (h : (w.put target name held).own? target name = some number) : number = w.held.length := by
  cases hi : w.instance? target with
  | some i =>
      rw [own?_put hi] at h
      exact (Option.some.inj h).symm
  | none =>
      simp only [instance?] at hi
      simp [put, hold, store, modifyAttributes, own?, instance?, hi] at h

theorem Sound.put (h : Sound w) (target : Nat) (name : String) (held : Held) :
    Sound (w.put target name held) := by
  have hsize : (w.put target name held).held.length = w.held.length + 1 := by
    simp [World.put, hold, store, modifyAttributes]
  refine ⟨?_, ?_⟩
  · intro other field number hnumber
    by_cases hsame : target = other ∧ name = field
    · obtain ⟨rfl, rfl⟩ := hsame
      have := own?_put_eq hnumber
      omega
    · rw [own?_put_of_ne hsame] at hnumber
      have := h.held hnumber
      omega
  · intro first second field other number hfirst hsecond
    by_cases hsame : target = first ∧ name = field
    · obtain ⟨rfl, rfl⟩ := hsame
      by_cases hagain : target = second ∧ name = other
      · exact hagain
      · rw [own?_put_of_ne hagain] at hsecond
        have := own?_put_eq hfirst
        have := h.held hsecond
        omega
    · rw [own?_put_of_ne hsame] at hfirst
      by_cases hagain : target = second ∧ name = other
      · obtain ⟨rfl, rfl⟩ := hagain
        have := own?_put_eq hsecond
        have := h.held hfirst
        omega
      · rw [own?_put_of_ne hagain] at hsecond
        exact h.apart hfirst hsecond

theorem own?_remove (w : World) (target other : Nat) (name field : String) :
    (w.remove target name).own? other field =
      if target = other ∧ name = field then none else w.own? other field := by
  simp only [remove, modifyAttributes, own?, instance?, List.getElem?_modify]
  cases w.instances[other]? with
  | none => simp
  | some i =>
      by_cases htarget : target = other
      · have hfilter := valueOf?_filter name field i.attributes
        simp only [eq_comm (a := field)] at hfilter
        simpa [htarget] using hfilter
      · simp [htarget]

theorem Sound.remove (h : Sound w) (target : Nat) (name : String) :
    Sound (w.remove target name) := by
  have hown : ∀ {other field number}, (w.remove target name).own? other field = some number →
      w.own? other field = some number := by
    intro other field number hnumber
    rw [own?_remove] at hnumber
    split at hnumber
    · cases hnumber
    · exact hnumber
  exact ⟨fun hnumber => h.held (hown hnumber),
    fun hfirst hsecond => h.apart (hown hfirst) (hown hsecond)⟩

theorem Sound.extend (h : Sound w) {i : Instance} {more : List Held} (hfresh : Fresh w i more) :
    Sound (w.extend i more) := by
  have hsize : (w.extend i more).held.length = w.held.length + more.length := by
    simp [World.extend]
  refine ⟨?_, ?_⟩
  · intro target name number hnumber
    by_cases hnew : target = w.instances.length
    · subst hnew
      rw [own?_extend_self] at hnumber
      have := hfresh.bound name number hnumber
      omega
    · rw [own?_extend_of_ne hnew] at hnumber
      have := h.held hnumber
      omega
  · intro target other name field number hfirst hsecond
    by_cases hnew : target = w.instances.length
    · subst hnew
      rw [own?_extend_self] at hfirst
      by_cases hagain : other = w.instances.length
      · subst hagain
        rw [own?_extend_self] at hsecond
        exact ⟨rfl, hfresh.apart name field number hfirst hsecond⟩
      · rw [own?_extend_of_ne hagain] at hsecond
        have := hfresh.bound name number hfirst
        have := h.held hsecond
        omega
    · rw [own?_extend_of_ne hnew] at hfirst
      by_cases hagain : other = w.instances.length
      · subst hagain
        rw [own?_extend_self] at hsecond
        have := hfresh.bound field number hsecond
        have := h.held hfirst
        omega
      · rw [own?_extend_of_ne hagain] at hsecond
        exact h.apart hfirst hsecond

theorem Sound.setHeld (h : Sound w) (number : Nat) (held : Held) : Sound (w.setHeld number held) :=
  h.of_same_own (fun _ _ => rfl) (by simp [World.setHeld])

theorem Sound.introduce (h : Sound w) (observer : String) (steps : List Step) (times : Nat) :
    Sound (w.introduce observer steps times) :=
  h.of_same_own (own?_introduce w observer steps times) (by simp)

theorem Sound.effect (h : Sound w) {step : Step} {after : World} (heffect : Effect w step after) :
    Sound after := by
  cases heffect with
  | nothing => exact h
  | stored => exact h.put _ _ _
  | made fresh => exact (h.extend fresh).of_same_own (fun _ _ => rfl) (Nat.le_refl _)
  | removed => exact h.remove _ _
  | extended => exact h.setHeld _ _
  | introduced => exact h.introduce _ _ _
  | joined =>
      exact ((h.introduce _ _ _).setHeld _ _).of_same_own (fun _ _ => rfl) (Nat.le_refl _)
  | opened => exact ((h.introduce _ _ _).put _ _ _).of_same_own (fun _ _ => rfl) (Nat.le_refl _)
  | ended => exact h.setHeld _ _

/-- A world as it is at any moment of a run, when the observers may react to each other some more
levels deep. -/
structure Orderly (leaves : List Leave) (bound : Nat) (w : World) : Prop where
  sound : Sound w
  within : Within leaves bound w.reactions

theorem Within.effect (h : Within leaves bound w.reactions) {step : Step}
    (hstep : step.leaves ⊆ leaves) {after : World} (heffect : Effect w step after) :
    Within leaves bound after.reactions := by
  cases heffect with
  | nothing | stored | made | removed | extended | ended => exact h
  | introduced | joined | opened =>
      rw [Step.leaves] at hstep
      exact h.introduce (hstep (by simp)) (List.Subset.trans (List.subset_cons_self _ _) hstep)

theorem Orderly.effect (h : Orderly leaves bound w) {step : Step} (hstep : step.leaves ⊆ leaves)
    {after : World} (heffect : Effect w step after) : Orderly leaves bound after :=
  ⟨h.sound.effect heffect, Within.effect h.within hstep heffect⟩

end World

end RecordMirror.Observation
