import Mathlib.Data.List.Nodup
import RecordMirror.Build
import RecordMirror.Proofs.Code.Module
/-!
When a list of schema files compiles, and to which modules.  A file that fails is told by what is
wrong with it alone, or by an earlier file whose module has the same place.
-/

namespace RecordMirror.Build

variable {files : FileTree} {directory schema : Path} {config : Config} {text : String}
  {taken before schemas : List Path} {built : BuiltModule} {modules : List BuiltModule}

/-- The text of the module of a schema file: that of the file's own text, with the file's name as
its label and the records imported from the module of the file, which has a name. -/
structure Compiles (files : FileTree) (config : Config) (schema : Path) (text : String) : Prop where
  named : isModuleName (persistentModule config schema) = true
  compiled : ∃ source, files.readText schema = .ok source ∧
    moduleOfSource ⟨config.defaultMode, config.strictReferences, schema.name⟩
      (some (persistentModule config schema)) source = .ok text

/-- Why a schema file fails that comes after others on a list. -/
inductive Fails (files : FileTree) (directory : Path) (config : Config) (before : List Path)
    (schema : Path) : Prop
  | unreadable {cause} (h : files.readText schema = .error (.access cause))
  | undecodable {cause} (h : files.readText schema = .error (.decoding cause))
  | uncompilable {source cause} (hread : files.readText schema = .ok source)
    (h : moduleOfSource ⟨config.defaultMode, config.strictReferences, schema.name⟩
      (some (persistentModule config schema)) source = .error cause)
  | moduleName (h : isModuleName (persistentModule config schema) = false)
  | outputTaken {other} (hother : other ∈ before)
    (h : outputPath directory other = outputPath directory schema)

/-- Some schema file of a list fails. -/
def SomeFails (files : FileTree) (directory : Path) (config : Config) (schemas : List Path) :
    Prop :=
  ∃ before schema after, schemas = before ++ schema :: after ∧
    Fails files directory config before schema

theorem exists_compiles_or_fails (files : FileTree) (directory : Path) (config : Config)
    (before : List Path) (schema : Path) :
    (∃ text, Compiles files config schema text) ∨ Fails files directory config before schema := by
  cases hnamed : isModuleName (persistentModule config schema) with
  | false => exact .inr (.moduleName hnamed)
  | true =>
      cases hread : files.readText schema with
      | error cause =>
          cases cause with
          | access cause => exact .inr (.unreadable hread)
          | decoding cause => exact .inr (.undecodable hread)
      | ok source =>
          cases hmodule : moduleOfSource ⟨config.defaultMode, config.strictReferences, schema.name⟩
              (some (persistentModule config schema)) source with
          | error cause => exact .inr (.uncompilable hread hmodule)
          | ok text => exact .inl ⟨text, hnamed, source, hread, hmodule⟩

/-- A schema file has a module if its name is that of a module and its text can be planned. -/
theorem exists_compiles_iff :
    (∃ text, Compiles files config schema text) ↔
      isModuleName (persistentModule config schema) = true ∧
        ∃ source plans, files.readText schema = .ok source ∧
          Plan.ofSource (planOptions config schema) source = .ok plans := by
  constructor
  · rintro ⟨text, hnamed, source, hread, hmodule⟩
    obtain ⟨plans, hplans, -⟩ := moduleOfSource_eq_ok_iff.1 hmodule
    exact ⟨hnamed, source, plans, hread, hplans⟩
  · rintro ⟨hnamed, source, plans, hread, hplans⟩
    exact ⟨_, hnamed, source, hread, moduleOfSource_of_plans _ hplans⟩

/-- A file fails unless it has a module and no earlier file has one at the same place. -/
theorem not_fails_iff :
    ¬Fails files directory config before schema ↔
      (∃ text, Compiles files config schema text) ∧
        outputPath directory schema ∉ before.map (outputPath directory) := by
  constructor
  · intro h
    refine ⟨(exists_compiles_or_fails files directory config before schema).resolve_right h, ?_⟩
    intro htaken
    obtain ⟨other, hother, heq⟩ := List.mem_map.1 htaken
    exact h (.outputTaken hother heq)
  · rintro ⟨⟨text, hnamed, source, hread, hmodule⟩, hfree⟩ hfails
    cases hfails with
    | unreadable h => simp [hread] at h
    | undecodable h => simp [hread] at h
    | uncompilable hread' h =>
        cases hread.symm.trans hread'
        simp [hmodule] at h
    | moduleName h => simp [hnamed] at h
    | outputTaken hother h => exact hfree (List.mem_map.2 ⟨_, hother, h⟩)

theorem compileFile_eq_ok_iff :
    compileFile files directory config taken schema = .ok built ↔
      built.schema = schema ∧ built.output = outputPath directory schema ∧
        Compiles files config schema built.text ∧ built.output ∉ taken := by
  constructor
  · intro h
    unfold compileFile at h
    dsimp only at h
    by_cases hnamed : isModuleName (persistentModule config schema) = true
    · by_cases htaken : outputPath directory schema ∈ taken
      · simp [hnamed, htaken] at h
      · simp only [hnamed, htaken, Bool.not_true, Bool.false_eq_true, if_false] at h
        split at h
        · split at h <;> cases h
        · cases h
        · next source hread =>
            split at h
            · cases h
            · cases h
            · next text hmodule =>
                cases h
                dsimp only
                exact ⟨rfl, rfl, ⟨hnamed, source, hread, hmodule⟩, htaken⟩
    · simp [hnamed] at h
  · rintro ⟨rfl, houtput, ⟨hnamed, source, hread, hmodule⟩, htaken⟩
    unfold compileFile planOptions
    simp only [hnamed, htaken, hread, hmodule, ← houtput, Bool.not_true, Bool.false_eq_true,
      if_false]

/-- The only error of a schema file that is there and is text is that it is refused. -/
theorem compileFile_eq_error {source : String} {cause : BuildError}
    (hread : files.readText schema = .ok source)
    (h : compileFile files directory config taken schema = .error cause) :
    ∃ fault, cause = .refused fault := by
  unfold compileFile at h
  simp only [hread] at h
  split at h
  · cases h
    exact ⟨_, rfl⟩
  split at h
  · cases h
    exact ⟨_, rfl⟩
  split at h
  · cases h
    exact ⟨_, rfl⟩
  · next stop hmodule =>
      cases hplans : Plan.ofSource (planOptions config schema) source with
      | error fault => simp [moduleOfSource, hplans] at hmodule
      | ok plans => simp [moduleOfSource_of_plans _ hplans] at hmodule
  · cases h

theorem compileAll_eq_error {cause : BuildError}
    (hread : ∀ schema ∈ schemas, ∃ source, files.readText schema = .ok source)
    (h : compileAll files directory config taken schemas = .error cause) :
    ∃ fault, cause = .refused fault := by
  induction schemas generalizing taken with
  | nil => cases h
  | cons schema schemas ih =>
      obtain ⟨⟨source, hfirst⟩, hothers⟩ := List.forall_mem_cons.1 hread
      rw [compileAll] at h
      rcases bind_eq_error.1 h with hfile | ⟨built, -, hrest⟩
      · exact compileFile_eq_error hfirst hfile
      · rcases bind_eq_error.1 hrest with hrest | ⟨others, -, hdone⟩
        · exact ih hothers hrest
        · cases hdone

theorem compileAll_cons_eq_ok :
    compileAll files directory config taken (schema :: schemas) = .ok modules ↔
      ∃ built rest, compileFile files directory config taken schema = .ok built ∧
        compileAll files directory config (built.output :: taken) schemas = .ok rest ∧
        modules = built :: rest := by
  simp only [compileAll, bind_eq_ok, pure, Except.pure, Except.ok.injEq, exists_and_left,
    eq_comm (a := modules)]

/-- A list compiles to modules, one for each of its files, in order and at different places. -/
theorem compileAll_eq_ok (h : compileAll files directory config taken schemas = .ok modules) :
    modules.map BuiltModule.schema = schemas ∧
      (∀ built ∈ modules, built.output = outputPath directory built.schema ∧
        Compiles files config built.schema built.text) ∧
      (modules.map BuiltModule.output).Nodup ∧ ∀ built ∈ modules, built.output ∉ taken := by
  induction schemas generalizing taken modules with
  | nil =>
      cases h
      simp
  | cons schema schemas ih =>
      obtain ⟨built, rest, hfile, hrest, rfl⟩ := compileAll_cons_eq_ok.1 h
      obtain ⟨rfl, houtput, hcompiles, hfree⟩ := compileFile_eq_ok_iff.1 hfile
      obtain ⟨hschemas, hall, hnodup, hothers⟩ := ih hrest
      refine ⟨by rw [List.map_cons, hschemas], ?_, ?_, ?_⟩
      · exact List.forall_mem_cons.2 ⟨⟨houtput, hcompiles⟩, hall⟩
      · rw [List.map_cons, List.nodup_cons]
        refine ⟨?_, hnodup⟩
        intro hmem
        obtain ⟨other, hother, heq⟩ := List.mem_map.1 hmem
        exact hothers other hother (List.mem_cons.2 (.inl heq))
      · refine List.forall_mem_cons.2 ⟨hfree, ?_⟩
        exact fun other hother hmem => hothers other hother (List.mem_cons_of_mem _ hmem)

theorem exists_compileAll_iff :
    (∃ modules, compileAll files directory config taken schemas = .ok modules) ↔
      (∀ schema ∈ schemas, (∃ text, Compiles files config schema text) ∧
        outputPath directory schema ∉ taken) ∧
      (schemas.map (outputPath directory)).Nodup := by
  induction schemas generalizing taken with
  | nil => simp [compileAll]
  | cons schema schemas ih =>
      simp only [compileAll_cons_eq_ok, compileFile_eq_ok_iff]
      constructor
      · rintro ⟨-, built, rest, ⟨rfl, houtput, hcompiles, hfree⟩, hrest, -⟩
        obtain ⟨hall, hnodup⟩ := ih.1 ⟨rest, hrest⟩
        rw [houtput] at hfree hall
        refine ⟨List.forall_mem_cons.2 ⟨⟨⟨_, hcompiles⟩, hfree⟩, ?_⟩, ?_⟩
        · exact fun other hother =>
            ⟨(hall other hother).1, fun hmem => (hall other hother).2 (List.mem_cons_of_mem _ hmem)⟩
        · rw [List.map_cons, List.nodup_cons]
          refine ⟨?_, hnodup⟩
          intro hmem
          obtain ⟨other, hother, heq⟩ := List.mem_map.1 hmem
          exact (hall other hother).2 (List.mem_cons.2 (.inl heq))
      · rintro ⟨hall, hnodup⟩
        obtain ⟨⟨⟨text, hcompiles⟩, hfree⟩, hothers⟩ := List.forall_mem_cons.1 hall
        rw [List.map_cons, List.nodup_cons] at hnodup
        have hleft : ∀ other ∈ schemas, (∃ text, Compiles files config other text) ∧
            outputPath directory other ∉ outputPath directory schema :: taken := by
          intro other hother
          refine ⟨(hothers other hother).1, ?_⟩
          rw [List.mem_cons, not_or]
          refine ⟨fun heq => hnodup.1 ?_, (hothers other hother).2⟩
          exact List.mem_map.2 ⟨other, hother, heq⟩
        obtain ⟨rest, hrest⟩ := ih.2 ⟨hleft, hnodup.2⟩
        refine ⟨_, ⟨schema, outputPath directory schema, text⟩, rest, ?_, hrest, rfl⟩
        dsimp only
        exact ⟨rfl, rfl, hcompiles, hfree⟩

/-- A map repeats nothing if no member of a list is mapped like one before it. -/
theorem nodup_map_iff {α β : Type} {f : α → β} {items : List α} :
    (items.map f).Nodup ↔
      ∀ before a after, items = before ++ a :: after → f a ∉ before.map f := by
  constructor
  · rintro h before a after rfl hmem
    rw [List.map_append, List.map_cons] at h
    exact (List.nodup_append.1 h).2.2 _ hmem _ List.mem_cons_self rfl
  · intro h
    induction items using List.reverseRecOn with
    | nil => exact List.nodup_nil
    | append_singleton items a ih =>
        rw [List.map_append, List.map_singleton, ← List.concat_eq_append, List.nodup_concat]
        refine ⟨h items a [] rfl, ih ?_⟩
        intro before other after heq
        exact h before other (after ++ [a]) (by rw [heq, List.append_assoc, List.cons_append])

/-- A list of schema files compiles unless one of them fails. -/
theorem exists_compileAll_iff_not_someFails :
    (∃ modules, compileAll files directory config [] schemas = .ok modules) ↔
      ¬SomeFails files directory config schemas := by
  simp only [exists_compileAll_iff, nodup_map_iff, SomeFails, not_exists, not_and, not_fails_iff]
  constructor
  · rintro ⟨hall, hnodup⟩ before schema after rfl
    exact ⟨(hall schema (by simp)).1, hnodup before schema after rfl⟩
  · intro h
    refine ⟨fun schema hmem => ?_, fun before schema after heq => (h before schema after heq).2⟩
    obtain ⟨before, after, heq⟩ := List.append_of_mem hmem
    exact ⟨(h before schema after heq).1, List.not_mem_nil⟩

end RecordMirror.Build
