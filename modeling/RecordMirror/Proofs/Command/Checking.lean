import Mathlib.Data.String.Basic
import RecordMirror.Proofs.Command.Agreement
/-!
What checking a project reports.  There is one entry for each schema file that fails, in the order
of their paths, and the exit code says whether there are any, as long as every file that can be read
is text.  The first one that is not breaks the run off.
-/

namespace RecordMirror

theorem Path.inOrder_iff {names others : List String} :
    inOrder names others = true ↔ names ≤ others := by
  rw [inOrder, Bool.not_eq_true', ← Bool.not_eq_true, List.lex_eq_true_iff_lt]
  exact not_lt

namespace Project

variable {files : FileTree} {config : Config} {schema : Path} {schemas : List Path}
  {project : Project} {path : Path}

/-- The schema files of a project are ordered by their paths. -/
theorem Loaded.schemas_sorted (h : Loaded files project) :
    project.schemas.Pairwise fun p q => p.sortKey ≤ q.sortKey := by
  have hsorted : ∀ paths : List Path,
      (paths.mergeSort fun p q => Path.inOrder p.sortKey q.sortKey).Pairwise
        fun p q => Path.inOrder p.sortKey q.sortKey = true := by
    refine List.pairwise_mergeSort ?_ ?_
    · intro p q r hpq hqr
      rw [Path.inOrder_iff] at hpq hqr ⊢
      exact le_trans hpq hqr
    · intro p q
      rw [Bool.or_eq_true, Path.inOrder_iff, Path.inOrder_iff]
      exact le_total p.sortKey q.sortKey
  rw [h.schemas_eq]
  exact (hsorted _).imp Path.inOrder_iff.1

/-- What is said of a schema file that fails. -/
inductive Complains (files : FileTree) (config : Config) (schema : Path) : String → Prop
  | unreadable {cause} (hread : files.readText schema = .error (.access cause)) :
    Complains files config schema s!"cannot read '{schema.text}': {cause.message}"
  | undecodable {cause text} (hread : files.readText schema = .error (.decoding cause)) :
    Complains files config schema text
  | uncompilable {source cause} (hread : files.readText schema = .ok source)
    (hplans : Plan.ofSource (Build.planOptions config schema) source = .error cause) :
    Complains files config schema cause.message

/-- What is said of a list of schema files, in order: an entry for each one that fails, and none for
the others. -/
inductive Entries (files : FileTree) (config : Config) : List Path → List String → Prop
  | nil : Entries files config [] []
  | fine {schema rest entries} (hplanned : Planned files config schema)
    (hrest : Entries files config rest entries) : Entries files config (schema :: rest) entries
  | failing {schema rest entry entries} (hentry : Complains files config schema entry)
    (hrest : Entries files config rest entries) :
    Entries files config (schema :: rest) (entry :: entries)

/-- What can be read at a path, if anything can, is text. -/
def IsText (files : FileTree) (schema : Path) : Prop :=
  ∀ cause, files.readText schema ≠ .error (.decoding cause)

/-- A file that is text is complained of exactly if it fails. -/
theorem complaint?_of_isText (config : Config) (h : IsText files schema) :
    complaint? files config schema = .ok none ∧ Planned files config schema ∨
      ∃ entry, complaint? files config schema = .ok (some entry) ∧
        Complains files config schema entry := by
  unfold complaint?
  cases hread : files.readText schema with
  | error cause =>
      cases cause with
      | access cause => exact .inr ⟨_, rfl, .unreadable hread⟩
      | decoding cause => exact absurd hread (h cause)
  | ok source =>
      cases hplans : Plan.ofSource (Build.planOptions config schema) source with
      | error cause =>
          refine .inr ⟨cause.message, ?_, .uncompilable hread hplans⟩
          simp only [hplans]
      | ok plans =>
          refine .inl ⟨?_, source, plans, hread, hplans⟩
          simp only [hplans]

/-- Files that are text have their entries, whatever the files after them are. -/
theorem complaints_append (config : Config) (h : ∀ schema ∈ schemas, IsText files schema)
    (others : List Path) :
    ∃ entries, Entries files config schemas entries ∧
      complaints files config (schemas ++ others) =
        (entries ++ (complaints files config others).1, (complaints files config others).2) := by
  induction schemas with
  | nil => exact ⟨[], .nil, rfl⟩
  | cons schema schemas ih =>
      obtain ⟨hschema, hschemas⟩ := List.forall_mem_cons.1 h
      obtain ⟨entries, hentries, hrest⟩ := ih hschemas
      rcases complaint?_of_isText config hschema with
        ⟨hfound, hplanned⟩ | ⟨entry, hfound, hentry⟩
      · refine ⟨entries, .fine hplanned hentries, ?_⟩
        rw [List.cons_append, complaints, hfound, hrest]
        rfl
      · refine ⟨entry :: entries, .failing hentry hentries, ?_⟩
        rw [List.cons_append, complaints, hfound, hrest]
        rfl

theorem complaints_of_isText (config : Config) (h : ∀ schema ∈ schemas, IsText files schema) :
    ∃ entries, Entries files config schemas entries ∧
      complaints files config schemas = (entries, none) := by
  obtain ⟨entries, hentries, hcomplaints⟩ := complaints_append config h []
  rw [List.append_nil] at hcomplaints
  refine ⟨entries, hentries, hcomplaints.trans ?_⟩
  simp [complaints]

/-- The first file that is no text ends the complaints. -/
theorem complaints_of_first (config : Config) {before : List Path} (after : List Path)
    {cause : Utf8Error} (hbefore : ∀ other ∈ before, IsText files other)
    (hread : files.readText schema = .error (.decoding cause)) :
    ∃ entries, Entries files config before entries ∧
      complaints files config (before ++ schema :: after) = (entries, some cause) := by
  obtain ⟨entries, hentries, hcomplaints⟩ :=
    complaints_append config hbefore (schema :: after)
  have hfound : complaint? files config schema = .error cause := by
    rw [complaint?, hread]
  refine ⟨entries, hentries, hcomplaints.trans ?_⟩
  simp [complaints, hfound]

theorem exists_first (h : ¬∀ schema ∈ schemas, IsText files schema) :
    ∃ before schema after cause, schemas = before ++ schema :: after ∧
      (∀ other ∈ before, IsText files other) ∧
      files.readText schema = .error (.decoding cause) := by
  induction schemas with
  | nil => exact absurd (List.forall_mem_nil _) h
  | cons schema schemas ih =>
      by_cases hschema : IsText files schema
      · have hrest : ¬∀ other ∈ schemas, IsText files other := fun hall =>
          h (List.forall_mem_cons.2 ⟨hschema, hall⟩)
        obtain ⟨before, first, after, cause, rfl, hbefore, hread⟩ := ih hrest
        exact ⟨schema :: before, first, after, cause, rfl,
          List.forall_mem_cons.2 ⟨hschema, hbefore⟩, hread⟩
      · unfold IsText at hschema
        push Not at hschema
        obtain ⟨cause, hread⟩ := hschema
        exact ⟨[], schema, schemas, cause, rfl, List.forall_mem_nil _, hread⟩

end Project

namespace Command

variable {files : FileTree} {text : String} {project : Project}

/-- A run that reports on the schema files of a project. -/
def Outcome.Reports (files : FileTree) (project : Project) (outcome : Outcome) : Prop :=
  ∃ entries, Project.Entries files project.config project.schemas entries ∧
    outcome.errors = lines (entries.map errorLine) ∧
    outcome.ending = .ok (if entries = [] then 0 else 1)

/-- A run that is broken off at a schema file, after it has reported on the files before it. -/
def Outcome.BreaksOff (files : FileTree) (project : Project) (outcome : Outcome) : Prop :=
  ∃ before schema after cause entries, project.schemas = before ++ schema :: after ∧
    (∀ other ∈ before, Project.IsText files other) ∧
    files.readText schema = .error (.decoding cause) ∧
    Project.Entries files project.config before entries ∧
    outcome.errors = lines (entries.map errorLine) ∧
    outcome.ending = .error (.decoding cause)

theorem check_reports (hload : Project.load files (Path.ofText text) = .ok project)
    (htext : ∀ schema ∈ project.schemas, Project.IsText files schema) :
    ((Invocation.check text).run files).Reports files project := by
  change (runCheck files text).Reports files project
  unfold runCheck
  simp only [hload]
  split
  · next hschemas => exact ⟨[], hschemas ▸ .nil, rfl, rfl⟩
  · obtain ⟨entries, hentries, hcomplaints⟩ :=
      Project.complaints_of_isText project.config htext
    rw [hcomplaints]
    cases entries with
    | nil => exact ⟨[], hentries, rfl, rfl⟩
    | cons entry entries => exact ⟨entry :: entries, hentries, rfl, rfl⟩

theorem check_breaksOff (hload : Project.load files (Path.ofText text) = .ok project)
    (htext : ¬∀ schema ∈ project.schemas, Project.IsText files schema) :
    ((Invocation.check text).run files).BreaksOff files project := by
  obtain ⟨before, schema, after, cause, hsplit, hbefore, hread⟩ := Project.exists_first htext
  obtain ⟨entries, hentries, hcomplaints⟩ :=
    Project.complaints_of_first project.config after hbefore hread
  have hschemas : project.schemas ≠ [] := by
    rw [hsplit]
    exact List.append_ne_nil_of_right_ne_nil _ (List.cons_ne_nil _ _)
  refine ⟨before, schema, after, cause, entries, hsplit, hbefore, hread, hentries, ?_⟩
  change (runCheck files text).errors = _ ∧ (runCheck files text).ending = _
  rw [← hsplit] at hcomplaints
  simp only [runCheck, hload, if_neg hschemas, hcomplaints]
  exact ⟨rfl, rfl⟩

/-- Checking a project reports on its schema files, which are in the order of their paths, if and
only if every file that can be read is text.  Otherwise the first that is not breaks the run off. -/
theorem check_reports_iff (hload : Project.load files (Path.ofText text) = .ok project) :
    (project.schemas.Pairwise fun p q => p.sortKey ≤ q.sortKey) ∧
      (((Invocation.check text).run files).Reports files project ↔
        ∀ schema ∈ project.schemas, Project.IsText files schema) ∧
      (((Invocation.check text).run files).Reports files project ∨
        ((Invocation.check text).run files).BreaksOff files project) := by
  have hsorted := (Project.Loaded.of_load hload).schemas_sorted
  by_cases htext : ∀ schema ∈ project.schemas, Project.IsText files schema
  · have hreports := check_reports hload htext
    exact ⟨hsorted, iff_of_true hreports htext, .inl hreports⟩
  · have hbreaks := check_breaksOff hload htext
    refine ⟨hsorted, iff_of_false ?_ htext, .inr hbreaks⟩
    obtain ⟨_, _, _, _, _, _, _, _, _, _, hbroken⟩ := hbreaks
    rintro ⟨entries, -, -, hending⟩
    cases hbroken.symm.trans hending

/-- A directory with three schema files.  The first is no file or no text, the second can be planned
and the third cannot. -/
def gallery (text : Bool) : FileTree :=
  .holding ["gallery"]
    [(["gallery"], .directory),
      (["gallery", "a.mirror"], if text then .directory else .file [0xff]),
      (["gallery", "b.mirror"],
        .file (utf8OfText "@mirror record Frame \x7b @persisted width: Int \x7d")),
      (["gallery", "c.mirror"], .file (utf8OfText "record"))]

/-- The project in that directory. -/
def galleryProject : Project where
  directory := Path.ofText "/gallery"
  config := Config.defaults
  schemas := ["a.mirror", "b.mirror", "c.mirror"].map (Path.ofText "/gallery").child

theorem load_gallery (text : Bool) :
    Project.load (gallery text) (Path.ofText ".") = .ok galleryProject := by
  have hschemas : Project.findSchemas (gallery text) (Path.ofText "/gallery") Config.defaults =
      galleryProject.schemas := by
    cases text <;> rw [Project.findSchemas, List.mergeSort_of_pairwise] <;> decide +kernel
  have hload : Project.load (gallery text) (Path.ofText ".") =
      .ok ⟨Path.ofText "/gallery", Config.defaults,
        Project.findSchemas (gallery text) (Path.ofText "/gallery") Config.defaults⟩ := by
    cases text <;> rfl
  rw [hload, hschemas]
  rfl

/-- A directory that is called like a schema file and a file that cannot be planned are reported
on. -/
theorem check_reports_iff_gallery :
    Project.load (gallery true) (Path.ofText ".") = .ok galleryProject ∧
      ((Invocation.check ".").run (gallery true)).Reports (gallery true) galleryProject ∧
      ((Invocation.check ".").run (gallery true)).ending = .ok 1 := by
  have hload := load_gallery true
  have htext : ∀ schema ∈ galleryProject.schemas, Project.IsText (gallery true) schema := by
    have hall : (galleryProject.schemas.all fun schema =>
        match (gallery true).readText schema with
        | .error (.decoding _) => false
        | _ => true) = true := by
      decide +kernel
    intro schema hschema cause hread
    have hschema := List.all_eq_true.1 hall schema hschema
    rw [hread] at hschema
    cases hschema
  refine ⟨hload, (check_reports_iff hload).2.1.2 htext, ?_⟩
  change (runCheck (gallery true) ".").ending = _
  simp only [runCheck, hload]
  exact eq_ok_of_toOption (by decide +kernel)

/-- A file that is no text: the run is broken off, and nothing is said of the file after it that
cannot be planned. -/
theorem check_breaks_off :
    let files := gallery false
    Project.load files (Path.ofText ".") = .ok galleryProject ∧
      Project.complaint? files galleryProject.config (Path.ofText "/gallery/c.mirror") =
        .ok (some "c.mirror: Line 1, column 7: Expected 'IDENTIFIER', got ''") ∧
      ((Invocation.check ".").run files).errors = "" ∧
      ((Invocation.check ".").run files).ending = .error (.decoding ⟨0, [0xff], .startByte⟩) ∧
      ¬((Invocation.check ".").run files).Reports files galleryProject := by
  intro files
  have hload : Project.load files (Path.ofText ".") = .ok galleryProject := load_gallery false
  have hcomplaints : Project.complaints files galleryProject.config galleryProject.schemas =
      ([], some ⟨0, [0xff], .startByte⟩) := by
    decide +kernel
  have hrun : (Invocation.check ".").run files = .fail files
      [s!"Checking {galleryProject.schemas.length} schema file(s)..."] []
      (.decoding ⟨0, [0xff], .startByte⟩) := by
    change runCheck files "." = _
    simp only [runCheck, hload, hcomplaints]
    rfl
  refine ⟨hload, eq_ok_of_toOption (by decide +kernel), ?_, ?_, ?_⟩
  · rw [hrun]
    rfl
  · rw [hrun]
    rfl
  · rw [hrun]
    rintro ⟨entries, -, -, hending⟩
    cases hending

end Command

end RecordMirror
