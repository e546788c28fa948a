import RecordMirror.Command.Run
import RecordMirror.Proofs.Build.Writing
import RecordMirror.Proofs.Project
/-!
How generating the modules of a project ends.  The run tells what it did unless the modules are
written where they cannot be named from the project.
-/

namespace RecordMirror.Command

variable {files : FileTree} {text : String} {directory : Path} {project : Project}
  {modules : List BuiltModule} {said : List String}

/-- What is said before modules are generated. -/
def generating (project : Project) : String :=
  s!"Generating mirrors for {project.schemas.length} schema file(s)..."

/-- What is said of a module that was written. -/
def IsToldBy (directory : Path) (built : BuiltModule) (line : String) : Prop :=
  ∃ schema output, built.schema.relativeTo directory = .ok schema ∧
    built.output.relativeTo directory = .ok output ∧
    line = s!"  {schema.text} -> {output.text}"

/-- A run that tells what it did: that it had nothing to do, that it failed, which it does without a
change, or which modules it wrote. -/
inductive Tells (files : FileTree) (project : Project) (outcome : Outcome) : Prop
  | nothing (hschemas : project.schemas = []) (houtcome : outcome = .succeed files [noSchemas])
  | failed (hending : outcome.ending = .ok 1) (hfiles : outcome.files = files)
  | wrote {tree modules said}
    (hrun : Build.run files project.schemas project.target project.config =
      (tree, .ok modules))
    (hsaid : List.Forall₂ (IsToldBy project.directory) modules said)
    (houtcome : outcome = .succeed tree (generating project :: said))

/-- All that generating the modules of a project can end with whose schema files can be read. -/
inductive Generates (files : FileTree) (project : Project) : Outcome → Prop
  | nothing (hschemas : project.schemas = []) :
    Generates files project (.succeed files [noSchemas])
  | refused {fault}
    (hcompile : Build.compileAll files project.target project.config [] project.schemas =
      .error (.refused fault)) :
    Generates files project (.report files [generating project] [fault.message])
  | unwritable {tree cause modules} (hschemas : project.schemas ≠ [])
    (hcompile : Build.compileAll files project.target project.config [] project.schemas =
      .ok modules)
    (hrun : Build.run files project.schemas project.target project.config =
      (tree, .error (.unwritable cause))) :
    Generates files project (.fail tree [generating project] [] (.access cause))
  | told {tree modules said} (hschemas : project.schemas ≠ [])
    (hrun : Build.run files project.schemas project.target project.config =
      (tree, .ok modules))
    (hsaid : written project.directory modules = (said, none)) :
    Generates files project (.succeed tree (generating project :: said))
  | untold {tree modules said cause} (hschemas : project.schemas ≠ [])
    (hrun : Build.run files project.schemas project.target project.config =
      (tree, .ok modules))
    (hsaid : written project.directory modules = (said, some cause)) :
    Generates files project (.fail tree (generating project :: said) [] (.outside cause))

theorem generates (hload : Project.load files (Path.ofText text) = .ok project)
    (hreadable : project.Readable files) :
    Generates files project ((Invocation.generate text).run files) := by
  show Generates files project (runGenerate files text)
  unfold runGenerate
  simp only [hload]
  split
  · next hschemas => exact .nothing hschemas
  · next hschemas =>
      rw [show Project.buildPath project.directory project.config = project.target from rfl]
      rcases Build.run_cases files project.schemas project.target project.config with
        ⟨cause, hcompile, hrun⟩ |
          ⟨modules, hcompile, ⟨tree, cause, hrun, -⟩ | ⟨-, tree, -, -, hrun⟩⟩
      · obtain ⟨fault, rfl⟩ := Build.compileAll_eq_error hreadable hcompile
        rw [hrun]
        exact .refused hcompile
      · have hends := Generates.unwritable hschemas hcompile hrun
        rwa [hrun]
      · rcases hsaid : written project.directory modules with ⟨said, _ | cause⟩
        · have hends := Generates.told hschemas hrun hsaid
          simp only [hrun, hsaid]
          exact hends
        · have hends := Generates.untold hschemas hrun hsaid
          simp only [hrun, hsaid]
          exact hends

theorem written_eq_none (h : written directory modules = (said, none)) :
    List.Forall₂ (IsToldBy directory) modules said := by
  induction modules generalizing said with
  | nil =>
      cases h
      exact .nil
  | cons built modules ih =>
      unfold written at h
      split at h
      · cases h
      · cases h
      · next schema output hschema houtput =>
          rcases hrest : written directory modules with ⟨others, stopped⟩
          simp only [hrest] at h
          cases h
          exact .cons ⟨schema, output, hschema, houtput, rfl⟩ (ih hrest)

/-- All modules are told of unless one of them cannot be named from the directory. -/
theorem written_eq_some {cause : OutsideError}
    (h : written directory modules = (said, some cause)) :
    ∃ built ∈ modules, built.schema.relativeTo directory = .error cause ∨
      built.output.relativeTo directory = .error cause := by
  induction modules generalizing said with
  | nil => cases h
  | cons built modules ih =>
      unfold written at h
      split at h
      · next stop hschema =>
          cases h
          exact ⟨built, List.mem_cons_self, .inl hschema⟩
      · next stop houtput hschema =>
          cases h
          exact ⟨built, List.mem_cons_self, .inr houtput⟩
      · rcases hrest : written directory modules with ⟨others, stopped⟩
        simp only [hrest] at h
        cases h
        obtain ⟨other, hother, hcause⟩ := ih hrest
        exact ⟨other, List.mem_cons_of_mem _ hother, hcause⟩

section

variable {tree : FileTree} (hloaded : project.Loaded files)
  (hrun : Build.run files project.schemas project.target project.config = (tree, .ok modules))
include hrun

theorem schema_mem_of_run {built : BuiltModule} (hbuilt : built ∈ modules) :
    built.schema ∈ project.schemas :=
  (Build.Built.of_run hrun).schemas_eq ▸ List.mem_map_of_mem hbuilt

include hloaded

/-- A module that can be named from the directory of the project is not the directory itself, so the
build directory lies there, too. -/
theorem buildsInside_of_told {built : BuiltModule} {line : String} (hbuilt : built ∈ modules)
    (htold : IsToldBy project.directory built line) : project.BuildsInside := by
  obtain ⟨-, output, -, houtput, -⟩ := htold
  have hschema := schema_mem_of_run hrun hbuilt
  obtain ⟨hbegins, hgoes⟩ := (Build.Built.of_run hrun).output built hbuilt
  obtain ⟨hanchor, hparts⟩ := Path.relativeTo_eq_ok houtput
  obtain ⟨place, hplace, hdirectory⟩ := hloaded.exists_directory (List.ne_nil_of_mem hschema)
  have hne := Build.output_ne_of_directory hrun hbuilt hplace hdirectory
  refine hloaded.buildsInside_iff.2 ⟨hbegins.symm.trans hanchor, ?_⟩
  rw [hgoes] at hparts
  refine (List.prefix_concat_iff.1 hparts).resolve_left ?_
  intro hsame
  exact hne (Path.ext hanchor (hgoes.trans hsame.symm))

theorem written_ne_some (hinside : project.BuildsInside) {cause : OutsideError} :
    written project.directory modules ≠ (said, some cause) := by
  intro hsaid
  obtain ⟨built, hbuilt, hcause⟩ := written_eq_some hsaid
  have hschema := schema_mem_of_run hrun hbuilt
  obtain ⟨hbegins, hgoes⟩ := (Build.Built.of_run hrun).output built hbuilt
  obtain ⟨hanchor, hparts⟩ := hloaded.buildsInside_iff.1 hinside
  rcases hcause with hcause | hcause
  · rw [hloaded.schemas_eq] at hschema
    obtain ⟨relative, hrelative⟩ := Project.exists_relativeTo_schema hschema
    cases hrelative.symm.trans hcause
  · have hlies : project.directory.parts <+: built.output.parts := by
      rw [hgoes]
      exact hparts.trans (List.prefix_append _ _)
    obtain ⟨relative, hrelative⟩ := Path.exists_relativeTo (hbegins.trans hanchor) hlies
    cases hrelative.symm.trans hcause

end

theorem Tells.exists_code {outcome : Outcome} (h : Tells files project outcome) :
    ∃ code, outcome.ending = .ok code := by
  cases h with
  | nothing _ houtcome => exact ⟨0, houtcome ▸ rfl⟩
  | failed hending _ => exact ⟨1, hending⟩
  | wrote _ _ houtcome => exact ⟨0, houtcome ▸ rfl⟩

/-- Generating the modules of a project tells what it did if and only if there is nothing to do, a
schema file is refused, or the modules can be written below the directory of the project. -/
theorem generate_tells_iff
    (hload : Project.load files (Path.ofText text) = .ok project)
    (hreadable : project.Readable files)
    (hwritable : ∀ tree cause,
      Build.run files project.schemas project.target project.config =
        (tree, .error (.unwritable cause)) → cause.fault = .nullCharacter) :
    Tells files project ((Invocation.generate text).run files) ↔
      project.schemas = [] ∨
      Build.SomeFails files project.target project.config project.schemas ∨
      ('\x00' ∉ project.config.buildDirectory.toList ∧ project.BuildsInside) := by
  have hloaded := Project.Loaded.of_load hload
  have hends := generates hload hreadable
  generalize (Invocation.generate text).run files = outcome at hends ⊢
  cases hends with
  | nothing hschemas => exact iff_of_true (.nothing hschemas rfl) (.inl hschemas)
  | refused hcompile =>
      refine iff_of_true (.failed rfl rfl) (.inr (.inl (not_not.1 ?_)))
      intro hfits
      obtain ⟨modules, hok⟩ := Build.exists_compileAll_iff_not_someFails.2 hfits
      cases hok.symm.trans hcompile
  | unwritable hschemas hcompile hrun =>
      refine iff_of_false ?_ ?_
      · intro htells
        obtain ⟨code, hcode⟩ := htells.exists_code
        cases hcode
      · rintro (hnone | hfails | ⟨hnull, -⟩)
        · exact hschemas hnone
        · exact Build.exists_compileAll_iff_not_someFails.1 ⟨_, hcompile⟩ hfails
        · apply hnull
          apply hloaded.hasNull_target.1
          exact Build.run_eq_nullCharacter hreadable hrun (hwritable _ _ hrun)
  | @told tree modules said hschemas hrun hsaid =>
      have htold := written_eq_none hsaid
      refine iff_of_true (.wrote hrun htold rfl) (.inr (.inr ⟨?_, ?_⟩))
      · obtain ⟨-, made, hensure, -⟩ := Build.run_eq_ok hrun
        have hthere := FileTree.ensureDirectory_hasDirectory hensure
        rw [← hloaded.hasNull_target, FileTree.hasNull_of_hasDirectory hthere]
        exact Bool.false_ne_true
      · cases htold with
        | nil =>
            obtain ⟨hcompile, -⟩ := Build.run_eq_ok hrun
            exact absurd (Build.compileAll_eq_ok hcompile).1.symm hschemas
        | cons hfirst _ => exact buildsInside_of_told hloaded hrun List.mem_cons_self hfirst
  | untold hschemas hrun hsaid =>
      refine iff_of_false ?_ ?_
      · intro htells
        obtain ⟨code, hcode⟩ := htells.exists_code
        cases hcode
      · rintro (hnone | hfails | ⟨-, hinside⟩)
        · exact hschemas hnone
        · obtain ⟨hcompile, -⟩ := Build.run_eq_ok hrun
          exact Build.exists_compileAll_iff_not_someFails.1 ⟨_, hcompile⟩ hfails
        · exact written_ne_some hloaded hrun hinside hsaid

/-- A directory with a schema file and a configuration that names a build directory. -/
def team (buildDirectory : String) : FileTree :=
  .holding ["team"]
    [(["team"], .directory),
      (["team", ".mirrorgen.yaml"], .file (utf8OfText ("build-directory: " ++ buildDirectory))),
      (["team", "people.mirror"], .file (utf8OfText
        "@mirror record Person \x7b @persisted name: String \x7d"))]

/-- The project in that directory. -/
def teamProject (buildDirectory : String) : Project where
  directory := Path.ofText "/team"
  config := { buildDirectory := buildDirectory }
  schemas := [Path.ofText "/team/people.mirror"]

/-- Modules that are written to a directory of the project are told of. -/
theorem generate_tells_iff_team :
    Project.load (team "out/mirrors") (Path.ofText ".") = .ok (teamProject "out/mirrors") ∧
      Tells (team "out/mirrors") (teamProject "out/mirrors")
        ((Invocation.generate ".").run (team "out/mirrors")) := by
  have hload : Project.load (team "out/mirrors") (Path.ofText ".") =
      .ok (teamProject "out/mirrors") :=
    eq_ok_of_toOption (by decide +kernel)
  have hreadable : (teamProject "out/mirrors").Readable (team "out/mirrors") :=
    Project.readable_of_all (by decide +kernel)
  refine ⟨hload, (generate_tells_iff hload hreadable ?_).2
    (.inr (.inr ⟨by decide, .inl rfl⟩))⟩
  obtain ⟨written, modules, hwritten⟩ : ∃ written modules, Build.run (team "out/mirrors")
      (teamProject "out/mirrors").schemas (teamProject "out/mirrors").target
      (teamProject "out/mirrors").config = (written, .ok modules) :=
    Build.exists_run_eq_ok (by decide +kernel)
  intro tree cause hrun
  cases hwritten.symm.trans hrun

/-- A build directory outside the project: all modules are written, and then the run is broken off
because they cannot be named from the project. -/
theorem generate_breaks_off :
    Project.load (team "/out") (Path.ofText ".") = .ok (teamProject "/out") ∧
      (teamProject "/out").Readable (team "/out") ∧
      (∃ tree modules, Build.run (team "/out") (teamProject "/out").schemas
        (teamProject "/out").target (teamProject "/out").config = (tree, .ok modules)) ∧
      ((Invocation.generate ".").run (team "/out")).files ≠ team "/out" ∧
      ¬Tells (team "/out") (teamProject "/out") ((Invocation.generate ".").run (team "/out")) := by
  have hends : ((Invocation.generate ".").run (team "/out")).ending.toOption = none ∧
      ((Invocation.generate ".").run (team "/out")).files ≠ team "/out" := by
    decide +kernel
  refine ⟨eq_ok_of_toOption (by decide +kernel), Project.readable_of_all (by decide +kernel),
    Build.exists_run_eq_ok (by decide +kernel), hends.2, ?_⟩
  intro htells
  obtain ⟨code, hcode⟩ := htells.exists_code
  rw [hcode] at hends
  cases hends.1

end RecordMirror.Command
