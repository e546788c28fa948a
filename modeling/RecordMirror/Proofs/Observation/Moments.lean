import Mathlib.Logic.Relation
import RecordMirror.Proofs.Observation.Orderly
/-!
The moments of a run: those at which a step of the script is taken, and those at which an observer
takes a step of its own while it is told of a change, however deep.  What every step on the way
keeps is kept, and no step is ever cut short.
-/

namespace RecordMirror.Observation

open Relation

namespace World

/-- The world in which an observer begins to take its steps. -/
def enter (w : World) (observer : String) (change : Change) (reaction : Reaction) : World :=
  { w.note (w.eventOf observer change) with
    reactions := setValue observer reaction w.reactions }

variable {leaves : List Leave} {bound depth : Nat} {w : World}

theorem Orderly.note (h : Orderly leaves bound w) (event : Event) :
    Orderly leaves bound (w.note event) :=
  ⟨h.sound.of_same_own (fun _ _ => rfl) (Nat.le_refl _), h.within⟩

theorem Orderly.enter (h : Orderly leaves bound w) {observer : String} {steps : List Step}
    {left : Nat} (hreaction : valueOf? observer w.reactions = some ⟨steps, left + 1⟩)
    (change : Change) :
    ∃ rest, bound = rest + 1 ∧ Orderly leaves rest (w.enter observer change ⟨steps, left⟩) := by
  obtain ⟨rest, hbound, hspent⟩ := h.within.spend hreaction
  exact ⟨rest, hbound, h.sound.of_same_own (fun _ _ => rfl) (Nat.le_refl _), hspent⟩

/-- An observer that is told of something notes it, and then takes its steps if it has leave to. -/
theorem tell_cases (hbound : bound ≤ depth) (h : Orderly leaves bound w) (observer : String)
    (change : Change) :
    tell depth w observer change = (w.note (w.eventOf observer change), .ok ()) ∨
      ∃ rest lower steps left, bound = rest + 1 ∧ depth = lower + 1 ∧
        valueOf? observer w.reactions = some ⟨steps, left + 1⟩ ∧
        tell depth w observer change =
          takeSteps (tell lower) steps (w.enter observer change ⟨steps, left⟩) ∧
        Orderly leaves rest (w.enter observer change ⟨steps, left⟩) := by
  unfold tell
  simp only
  split
  · rename_i steps left hreaction
    obtain ⟨rest, rfl, henter⟩ := h.enter hreaction change
    cases depth with
    | zero => omega
    | succ lower => exact .inr ⟨rest, lower, steps, left, rfl, rfl, hreaction, rfl, henter⟩
  · exact .inl rfl

/-- What each of some steps keeps is kept by all of them, up to any step. -/
theorem takeSteps_keeps (tell : Tell) (steps : List Step) {P : World → Prop} {w : World}
    (hw : P w)
    (hstep : ∀ done next rest middle, steps = done ++ next :: rest →
      takeSteps tell done w = (middle, .ok ()) → P middle →
      P (middle.takeStep tell next).1 ∧ (middle.takeStep tell next).2 ≠ .error .exhausted) :
    P (takeSteps tell steps w).1 ∧ (takeSteps tell steps w).2 ≠ .error .exhausted := by
  induction steps generalizing w with
  | nil => exact ⟨hw, nofun⟩
  | cons head rest ih =>
      obtain ⟨hafter, hends⟩ := hstep [] head rest w rfl rfl hw
      rw [takeSteps]
      rcases hhead : w.takeStep tell head with ⟨after, fault | value⟩
      · rw [hhead] at hafter hends
        refine ⟨hafter, ?_⟩
        rintro ⟨⟩
        exact hends rfl
      · rw [hhead] at hafter
        refine ih hafter ?_
        intro done next later middle heq hdone hmiddle
        refine hstep (head :: done) next later middle (by rw [heq]; rfl) ?_ hmiddle
        simp only [takeSteps, hhead]
        exact hdone

/-- An observer that is told of something keeps what each of its steps keeps. -/
theorem tell_keeps {P : World → Prop} (hP : ∀ w events reactions, P w →
      P { w with events := events, reactions := reactions })
    (hbound : bound ≤ depth) (h : Orderly leaves bound w) (hw : P w) (observer : String)
    (change : Change)
    (hstep : ∀ {rest lower steps left done next others middle}, rest ≤ lower →
      depth = lower + 1 → valueOf? observer w.reactions = some ⟨steps, left + 1⟩ →
      steps = done ++ next :: others →
      takeSteps (tell lower) done (w.enter observer change ⟨steps, left⟩) = (middle, .ok ()) →
      Orderly leaves rest middle → P middle →
      (Orderly leaves rest (middle.takeStep (tell lower) next).1 ∧
          P (middle.takeStep (tell lower) next).1) ∧
        (middle.takeStep (tell lower) next).2 ≠ .error .exhausted) :
    (Orderly leaves bound (tell depth w observer change).1 ∧
        P (tell depth w observer change).1) ∧
      (tell depth w observer change).2 ≠ .error .exhausted := by
  rcases tell_cases hbound h observer change with
    hnoted | ⟨rest, lower, steps, left, rfl, rfl, hreaction, htell, henter⟩
  · rw [hnoted]
    exact ⟨⟨h.note _, hP w _ _ hw⟩, nofun⟩
  · rw [htell]
    obtain ⟨⟨horderly, hafter⟩, hends⟩ := takeSteps_keeps (tell lower) steps
      (P := fun w => Orderly leaves rest w ∧ P w) ⟨henter, hP w _ _ hw⟩
      fun done next others middle hsplit hdone hmiddle =>
        hstep (Nat.le_of_succ_le_succ hbound) rfl hreaction hsplit hdone hmiddle.1 hmiddle.2
    -- The leave that was spent on these steps is not given back.
    exact ⟨⟨⟨horderly.sound, horderly.within.mono (Nat.le_succ rest)⟩, hafter⟩, hends⟩

end World

/-- A moment of a run: a step that is taken, the world before it, and how many levels deep observers
may react to it. -/
structure Moment where
  depth : Nat
  world : World
  step : Step

namespace Moment

/-- What comes of the step. -/
def outcome (m : Moment) : World × Except Fault Json :=
  m.world.takeStep (World.tell m.depth) m.step

/-- The calls that the step makes. -/
def calls (m : Moment) : List Call :=
  m.world.callsOf (World.tell m.depth) m.step

/-- An observer that is called at one moment takes its next step at the other. -/
inductive Reacts (m later : Moment) : Prop
  | intro {call : Call} {done rest : List Step} {left : Nat} (called : call ∈ m.calls)
      (depth : m.depth = later.depth + 1)
      (leave : valueOf? call.observer call.before.reactions =
        some ⟨done ++ later.step :: rest, left + 1⟩)
      (taken : World.takeSteps (World.tell later.depth) done
        (call.before.enter call.observer call.change ⟨done ++ later.step :: rest, left⟩) =
          (later.world, .ok ()))

/-- A moment leads to another if an observer takes a step at the other while it is told of what is
done at the first, or at one that the first leads to. -/
abbrev LeadsTo : Moment → Moment → Prop :=
  TransGen Reacts

variable {leaves : List Leave} {bound : Nat} {P : World → Prop} {m : Moment}

/-- What is kept at a moment: by its step, and until each of its calls. -/
structure Keeps (leaves : List Leave) (bound : Nat) (P : World → Prop) (m : Moment) :
    Prop where
  after : World.Orderly leaves bound m.outcome.1 ∧ P m.outcome.1
  ends : m.outcome.2 ≠ .error .exhausted
  calls : ∀ call ∈ m.calls, World.Orderly leaves bound call.before ∧ P call.before

/-- What holds once a step has done what it does by itself, and is kept by what the steps that
follow from it do by themselves, is kept. -/
theorem keeps_of_traced {own : World} (hP : ∀ w events reactions, P w →
      P { w with events := events, reactions := reactions })
    (hlater : ∀ later, m.LeadsTo later → ∀ {rest}, World.Orderly leaves rest later.world →
      P later.world → ∀ {after}, World.Effect later.world later.step after → P after)
    (hbound : bound ≤ m.depth) (htraced : Traced (World.tell m.depth) own m.calls m.outcome)
    (horderly : World.Orderly leaves bound own) (hown : P own) : Keeps leaves bound P m := by
  obtain ⟨depth, w, step⟩ := m
  -- By induction on how deep observers may react: what a called observer does is a lower moment.
  induction depth using Nat.strongRecOn generalizing bound w step own with
  | ind depth ih =>
      have hcall : ∀ call ∈ w.callsOf (World.tell depth) step,
          World.Orderly leaves bound call.before ∧ P call.before →
          (World.Orderly leaves bound call.outcome.1 ∧ P call.outcome.1) ∧
            call.outcome.2 ≠ .error .exhausted := by
        rintro call hmem ⟨hbefore, hPbefore⟩
        rw [htraced.real call hmem]
        refine World.tell_keeps hP hbound hbefore hPbefore call.observer call.change ?_
        rintro rest lower steps left done next others middle hrest rfl hreaction rfl hdone
          hmiddle hPmiddle
        have hreacts : Reacts ⟨lower + 1, w, step⟩ ⟨lower, middle, next⟩ :=
          .intro hmem rfl hreaction hdone
        have hsteps := (hbefore.within.allowed _ _ hreaction).subset
        obtain ⟨own', heffect, htraced'⟩ := World.traced_takeStep (World.tell lower) middle next
        have horderly' :=
          hmiddle.effect (List.Subset.trans (leaves_subset_leavesOf (by simp)) hsteps) heffect
        have hown' := hlater _ (.single hreacts) hmiddle hPmiddle heffect
        have hnext := ih lower (Nat.lt_succ_self lower) horderly' hown' middle next
          (fun later h => hlater later (.head hreacts h)) hrest htraced'
        exact ⟨hnext.after, hnext.ends⟩
      obtain ⟨hafter, hcalls⟩ := htraced.linked.keeps
        (P := fun w => World.Orderly leaves bound w ∧ P w) ⟨horderly, hown⟩
        fun call hmem hbefore => (hcall call hmem hbefore).1
      refine ⟨hafter, ?_, hcalls⟩
      intro hexhausted
      obtain ⟨call, hmem, hfault⟩ := htraced.exhausted hexhausted
      exact (hcall call hmem (hcalls call hmem)).2 hfault

/-- The observers have the leave they need at a moment. -/
structure Regular (leaves : List Leave) (m : Moment) : Prop where
  world : World.Orderly leaves m.depth m.world
  step : m.step.leaves ⊆ leaves

/-- A moment includes itself and those it leads to. -/
abbrev Includes : Moment → Moment → Prop :=
  ReflTransGen Reacts

/-- What all steps included in a moment keep by themselves is kept. -/
theorem Regular.keeps (h : Regular leaves m) (hP : ∀ w events reactions, P w →
      P { w with events := events, reactions := reactions })
    (hincluded : ∀ later, m.Includes later → ∀ {rest}, World.Orderly leaves rest later.world →
      P later.world → ∀ {after}, World.Effect later.world later.step after → P after)
    (hm : P m.world) : Keeps leaves m.depth P m := by
  obtain ⟨own, heffect, htraced⟩ := World.traced_takeStep (World.tell m.depth) m.world m.step
  exact keeps_of_traced hP (fun later hlater => hincluded later hlater.to_reflTransGen)
    (Nat.le_refl _) htraced (h.world.effect h.step heffect) (hincluded m .refl h.world hm heffect)

/-- A moment keeps the world orderly. -/
theorem Regular.keeps_orderly (h : Regular leaves m) : Keeps leaves m.depth (fun _ => True) m :=
  h.keeps (fun _ _ _ => id) (fun _ _ _ _ _ _ _ => trivial) trivial

theorem Reacts.regular {later : Moment} (h : Reacts m later) (hm : Regular leaves m) :
    Regular leaves later := by
  obtain @⟨call, done, rest, left, called, hdepth, leave, taken⟩ := h
  have hbefore := (hm.keeps_orderly.calls call called).1
  have hsteps := (hbefore.within.allowed _ _ leave).subset
  obtain ⟨bound, hbound, henter⟩ := hbefore.enter leave call.change
  have hlower : bound = later.depth := by omega
  subst hlower
  have hkept := World.takeSteps_keeps (World.tell later.depth) done henter ?_
  · rw [taken] at hkept
    exact ⟨hkept.1, List.Subset.trans (leaves_subset_leavesOf (by simp)) hsteps⟩
  · rintro earlier other others world rfl - hworld
    have hregular : Regular leaves ⟨later.depth, world, other⟩ :=
      ⟨hworld, List.Subset.trans (leaves_subset_leavesOf (by simp)) hsteps⟩
    exact ⟨hregular.keeps_orderly.after.1, hregular.keeps_orderly.ends⟩

/-- An observer only takes steps that it has leave to take. -/
theorem Reacts.allowed {later : Moment} (h : Reacts m later) (hm : Regular leaves m) :
    ∃ leave ∈ leaves, later.step ∈ leave.steps := by
  obtain ⟨called, -, leave, -⟩ := h
  have hbefore := (hm.keeps_orderly.calls _ called).1
  obtain ⟨given, hgiven, hsteps⟩ := (hbefore.within.allowed _ _ leave).listed
  exact ⟨given, hgiven, by simp [hsteps]⟩

theorem Includes.regular {later : Moment} (h : m.Includes later) (hm : Regular leaves m) :
    Regular leaves later := by
  induction h with
  | refl => exact hm
  | tail _ hreacts ih => exact hreacts.regular ih

theorem LeadsTo.allowed {later : Moment} (h : m.LeadsTo later) (hm : Regular leaves m) :
    ∃ leave ∈ leaves, later.step ∈ leave.steps := by
  obtain ⟨earlier, hearlier, hreacts⟩ := TransGen.tail'_iff.1 h
  exact hreacts.allowed (Includes.regular hearlier hm)

/-- What is reported of a moment. -/
def report (m : Moment) : StepReport :=
  ⟨m.outcome.2, m.outcome.1.events, m.outcome.1⟩

end Moment

/-! ### Runs -/

namespace World

/-- The moments at which the steps of a script are taken. -/
def moments (depth : Nat) : World → List Step → List Moment
  | _, [] => []
  | w, step :: rest =>
    let moment : Moment := ⟨depth, { w with events := [] }, step⟩
    moment :: moments depth moment.outcome.1 rest

theorem perform_eq_map_report (depth : Nat) (w : World) (steps : List Step) :
    perform depth w steps = (moments depth w steps).map Moment.report := by
  induction steps generalizing w with
  | nil => rfl
  | cons step rest ih =>
      rw [perform, moments, List.map_cons, ← ih]
      rfl

theorem regular_of_mem_moments {leaves : List Leave} {depth : Nat} {steps : List Step}
    (hsteps : leavesOf steps ⊆ leaves) {w : World} (h : Orderly leaves depth w) :
    ∀ m ∈ moments depth w steps, m.Regular leaves := by
  induction steps generalizing w with
  | nil => exact nofun
  | cons step rest ih =>
      rw [leavesOf, List.append_subset] at hsteps
      have hfirst : Moment.Regular leaves ⟨depth, { w with events := [] }, step⟩ :=
        ⟨⟨h.sound.of_same_own (fun _ _ => rfl) (Nat.le_refl _), h.within⟩, hsteps.1⟩
      intro m hm
      rcases List.mem_cons.1 hm with rfl | hm
      · exact hfirst
      · exact ih hsteps.2 hfirst.keeps_orderly.after.1 m hm

/-- The moments of the run of a script at which it takes its own steps. -/
def runMoments (decls : List ClassDecl) (script : List Step) : List Moment :=
  moments (reactionsOf script) { classes := Class.declare decls } script

theorem run_eq_map_report (decls : List ClassDecl) (script : List Step) :
    run decls script = (runMoments decls script).map Moment.report :=
  perform_eq_map_report _ _ script

/-- At the beginning nothing is held, and all leave is yet to be given. -/
theorem orderly_initial (classes : List Class) (script : List Step) :
    Orderly (leavesOf script) (reactionsOf script) { classes := classes } where
  sound := ⟨nofun, nofun⟩
  within := by
    refine ⟨nofun, ?_⟩
    rw [reactionsOf_eq_sum]
    simp [leaveLeft, leaveToCome, valueOf?]

end World

/-- The moments of the run of a script, those included at which its observers take steps. -/
def Moment.InRun (decls : List ClassDecl) (script : List Step) (m : Moment) : Prop :=
  ∃ first ∈ World.runMoments decls script, first.Includes m

theorem Moment.InRun.regular {decls : List ClassDecl} {script : List Step} {m : Moment}
    (h : m.InRun decls script) : m.Regular (leavesOf script) := by
  obtain ⟨first, hfirst, hincludes⟩ := h
  exact hincludes.regular
    (World.regular_of_mem_moments (List.Subset.refl _) (World.orderly_initial _ script)
      first hfirst)

end RecordMirror.Observation
