import RecordMirror.Proofs.Command.Generation
/-!
Checking and generating agree on the texts of schema files.  Only generating asks what the files are
called, so what is checked can be generated if and only if the names of the files fit.
-/

namespace RecordMirror

namespace Project

variable {files : FileTree} {config : Config} {schema : Path} {schemas : List Path}
  {project : Project}

/-- The schema files of a project have modules: those that their records are imported from have
names, and those that are generated for them have different places. -/
structure NamesFit (project : Project) : Prop where
  named : ∀ schema ∈ project.schemas,
    Build.isModuleName (Build.persistentModule project.config schema) = true
  distinct : (project.schemas.map (Build.outputPath project.target)).Nodup

/-- A schema file can be read and planned. -/
def Planned (files : FileTree) (config : Config) (schema : Path) : Prop :=
  ∃ source plans, files.readText schema = .ok source ∧
    Plan.ofSource (Build.planOptions config schema) source = .ok plans

theorem complaint?_eq_none_iff :
    complaint? files config schema = .ok none ↔ Planned files config schema := by
  unfold complaint? Planned
  cases hread : files.readText schema with
  | error cause => cases cause <;> simp
  | ok source =>
      cases hplans : Plan.ofSource (Build.planOptions config schema) source <;> simp [hplans]

/-- Of files that can be read every one is checked, and nothing is wrong unless one cannot be
planned. -/
theorem complaints_of_readable
    (hread : ∀ schema ∈ schemas, ∃ source, files.readText schema = .ok source) :
    (complaints files config schemas).2 = none ∧
      ((complaints files config schemas).1 = [] ↔
        ∀ schema ∈ schemas, Planned files config schema) := by
  induction schemas with
  | nil => simp [complaints]
  | cons schema schemas ih =>
      obtain ⟨⟨source, hsource⟩, hothers⟩ := List.forall_mem_cons.1 hread
      obtain ⟨hstopped, hnil⟩ := ih hothers
      cases hfound : complaint? files config schema with
      | error cause =>
          unfold complaint? at hfound
          rw [hsource] at hfound
          dsimp only at hfound
          split at hfound <;> cases hfound
      | ok found =>
          have hplanned : Planned files config schema ↔ found = none := by
            rw [← complaint?_eq_none_iff, hfound, Except.ok.injEq]
          simp only [complaints, hfound, hstopped, List.append_eq_nil_iff, hnil, true_and,
            List.forall_mem_cons, hplanned]
          cases found <;> simp

end Project

namespace Command

variable {files : FileTree} {text : String} {project : Project}

/-- A run that ends because a schema file is refused. -/
def Outcome.Refused (outcome : Outcome) : Prop :=
  outcome.ending = .ok 1 ∧
    ∃ fault : BuildFault, outcome.errors = lines [errorLine fault.message]

theorem check_succeeds_iff (hload : Project.load files (Path.ofText text) = .ok project)
    (hreadable : project.Readable files) :
    ((Invocation.check text).run files).ending = .ok 0 ↔
      ∀ schema ∈ project.schemas, Project.Planned files project.config schema := by
  show (runCheck files text).ending = .ok 0 ↔ _
  unfold runCheck
  simp only [hload]
  split
  · next hschemas => simp [hschemas, Outcome.succeed]
  · have hcomplaints : (Project.complaints files project.config project.schemas).2 = none ∧ _ :=
      Project.complaints_of_readable hreadable
    obtain ⟨hstopped, hnil⟩ := hcomplaints
    rcases hsaid : Project.complaints files project.config project.schemas with ⟨said, stopped⟩
    rw [hsaid] at hstopped hnil
    cases hstopped
    rw [← hnil]
    cases said <;> simp [Outcome.succeed, Outcome.report]

theorem generate_refused_iff (hload : Project.load files (Path.ofText text) = .ok project)
    (hreadable : project.Readable files) :
    ((Invocation.generate text).run files).Refused ↔
      ¬∃ modules, Build.compileAll files project.target project.config [] project.schemas =
        .ok modules := by
  have hends := generates hload hreadable
  generalize (Invocation.generate text).run files = outcome at hends ⊢
  cases hends with
  | nothing hschemas =>
      rw [hschemas]
      exact iff_of_false (fun h => by cases h.1) (not_not.2 ⟨[], rfl⟩)
  | @refused fault hcompile =>
      refine iff_of_true ⟨rfl, fault, rfl⟩ ?_
      rintro ⟨modules, hok⟩
      cases hok.symm.trans hcompile
  | unwritable hschemas hcompile hrun =>
      exact iff_of_false (fun h => by cases h.1) (not_not.2 ⟨_, hcompile⟩)
  | told hschemas hrun hsaid =>
      exact iff_of_false (fun h => by cases h.1) (not_not.2 ⟨_, (Build.run_eq_ok hrun).1⟩)
  | untold hschemas hrun hsaid =>
      exact iff_of_false (fun h => by cases h.1) (not_not.2 ⟨_, (Build.run_eq_ok hrun).1⟩)

/-- Checking a project succeeds exactly if generating its modules is not refused, if and only if the
names of its files fit or it is not checked successfully anyway. -/
theorem check_agrees_iff (hload : Project.load files (Path.ofText text) = .ok project)
    (hreadable : project.Readable files) :
    (((Invocation.check text).run files).ending = .ok 0 ↔
        ¬((Invocation.generate text).run files).Refused) ↔
      (((Invocation.check text).run files).ending = .ok 0 → project.NamesFit) := by
  rw [generate_refused_iff hload hreadable, not_not, Build.exists_compileAll_iff,
    check_succeeds_iff hload hreadable]
  simp only [Build.exists_compiles_iff, List.not_mem_nil, not_false_eq_true, and_true]
  constructor
  · intro hagree hplanned
    obtain ⟨hall, hdistinct⟩ := hagree.1 hplanned
    exact ⟨fun schema hschema => (hall schema hschema).1, hdistinct⟩
  · intro hfit
    constructor
    · intro hplanned
      exact ⟨fun schema hschema =>
        ⟨(hfit hplanned).named schema hschema, hplanned schema hschema⟩, (hfit hplanned).distinct⟩
    · rintro ⟨hall, -⟩ schema hschema
      exact (hall schema hschema).2

/-- A directory with one schema file and no configuration. -/
def studio (fileName : String) : FileTree :=
  .holding ["studio"]
    [(["studio"], .directory),
      (["studio", fileName], .file (utf8OfText
        "@mirror record Song \x7b @persisted title: String \x7d"))]

/-- The project in that directory. -/
def studioProject (fileName : String) : Project where
  directory := Path.ofText "/studio"
  config := Config.defaults
  schemas := [(Path.ofText "/studio").child fileName]

/-- A file whose name fits is checked and generated. -/
theorem check_agrees_iff_songs :
    ((Invocation.check ".").run (studio "songs.mirror")).ending = .ok 0 ∧
      ¬((Invocation.generate ".").run (studio "songs.mirror")).Refused := by
  have hload : Project.load (studio "songs.mirror") (Path.ofText ".") =
      .ok (studioProject "songs.mirror") :=
    eq_ok_of_toOption (by decide +kernel)
  have hreadable : (studioProject "songs.mirror").Readable (studio "songs.mirror") :=
    Project.readable_of_all (by decide +kernel)
  have hchecked : ((Invocation.check ".").run (studio "songs.mirror")).ending = .ok 0 :=
    eq_ok_of_toOption (by decide +kernel)
  have hagree := (check_agrees_iff hload hreadable).2
    fun _ => ⟨List.forall_mem_singleton.2 (by decide +kernel), List.nodup_singleton _⟩
  exact ⟨hchecked, hagree.1 hchecked⟩

/-- A file whose name is not that of a module: it is checked successfully, but generating is
refused. -/
theorem check_disagrees :
    Project.load (studio "my-songs.mirror") (Path.ofText ".") =
        .ok (studioProject "my-songs.mirror") ∧
      (studioProject "my-songs.mirror").Readable (studio "my-songs.mirror") ∧
      ¬(((Invocation.check ".").run (studio "my-songs.mirror")).ending = .ok 0 ↔
        ¬((Invocation.generate ".").run (studio "my-songs.mirror")).Refused) := by
  have hchecked : ((Invocation.check ".").run (studio "my-songs.mirror")).ending = .ok 0 :=
    eq_ok_of_toOption (by decide +kernel)
  have hrefused : ((Invocation.generate ".").run (studio "my-songs.mirror")).Refused :=
    ⟨eq_ok_of_toOption (by decide +kernel),
      .moduleName (Path.ofText "/studio/my-songs.mirror") "my-songs", by decide +kernel⟩
  exact ⟨eq_ok_of_toOption (by decide +kernel), Project.readable_of_all (by decide +kernel),
    fun hagree => hagree.1 hchecked hrefused⟩

end Command

end RecordMirror
