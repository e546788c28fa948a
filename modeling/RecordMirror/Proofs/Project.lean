import RecordMirror.Project
import RecordMirror.Proofs.FileTree.Directories
import RecordMirror.Proofs.Outcomes
import RecordMirror.Proofs.Path
/-!
What is known of a project that is loaded: where its directory stands and what its schema files are
called.
-/

namespace RecordMirror

theorem Path.relativeTo_eq_ok {p directory relative : Path}
    (h : p.relativeTo directory = .ok relative) :
    p.anchor = directory.anchor ∧ directory.parts <+: p.parts := by
  unfold Path.relativeTo at h
  split at h
  · next hlies => exact ⟨hlies.1, List.isPrefixOf_iff_prefix.1 hlies.2⟩
  · cases h

theorem Path.exists_relativeTo {p directory : Path} (hanchor : p.anchor = directory.anchor)
    (hparts : directory.parts <+: p.parts) : ∃ relative, p.relativeTo directory = .ok relative :=
  ⟨_, if_pos ⟨hanchor, List.isPrefixOf_iff_prefix.2 hparts⟩⟩

namespace Project

variable {files : FileTree} {directory path schema : Path} {config : Config} {project : Project}

/-- Every schema file of a project can be read and is text. -/
def Readable (files : FileTree) (project : Project) : Prop :=
  ∀ schema ∈ project.schemas, ∃ source, files.readText schema = .ok source

theorem readable_of_all
    (h : (project.schemas.all fun schema => (files.readText schema).toOption.isSome) = true) :
    project.Readable files := by
  intro schema hschema
  obtain ⟨source, hsource⟩ := Option.isSome_iff_exists.1 (List.all_eq_true.1 h schema hschema)
  exact ⟨source, eq_ok_of_toOption hsource⟩

/-- The directory that the modules of a project are written to. -/
def target (project : Project) : Path :=
  buildPath project.directory project.config

/-- The modules of a project are written below its directory: the build directory is named from
there, or by a path from the root that passes through it. -/
def BuildsInside (project : Project) : Prop :=
  (Path.ofText project.config.buildDirectory).anchor = .none ∨
    (Path.ofText project.config.buildDirectory).anchor = .root ∧
      project.directory.parts <+: (Path.ofText project.config.buildDirectory).parts

/-- What is known of a project that is loaded. -/
structure Loaded (files : FileTree) (project : Project) : Prop where
  anchor : project.directory.anchor = .root
  found : ∃ place entry, files.place project.directory = .ok place ∧ files.get? place = some entry
  schemas_eq : project.schemas = findSchemas files project.directory project.config

theorem Loaded.of_load (h : load files path = .ok project) : Loaded files project := by
  unfold load at h
  obtain ⟨directory, hdirectory, h⟩ := bind_eq_ok.1 h
  obtain ⟨there, hthere, h⟩ := bind_eq_ok.1 h
  cases there with
  | false => cases h
  | true =>
      obtain ⟨config, -, h⟩ := bind_eq_ok.1 h
      cases h
      refine ⟨?_, ?_, rfl⟩
      · have hplace := mapError_eq_ok.1 hdirectory
        unfold FileTree.absolute at hplace
        split at hplace <;> cases hplace
        rfl
      · obtain ⟨status, hstatus, hsome⟩ := map_eq_ok.1 (mapError_eq_ok.1 hthere)
        unfold FileTree.status at hstatus
        split at hstatus <;> cases hstatus
        · next place hplace =>
            obtain ⟨entry, hentry⟩ := Option.isSome_iff_exists.1 hsome
            exact ⟨place, entry, hplace, hentry⟩
        · cases hsome

theorem Loaded.hasNull_target (h : Loaded files project) :
    project.target.hasNull = true ↔ '\x00' ∈ project.config.buildDirectory.toList := by
  obtain ⟨place, -, hplace, -⟩ := h.found
  have hdirectory := (FileTree.place_eq_ok hplace).1
  rw [← Path.hasNull_ofText]
  unfold target buildPath Path.join
  split
  · unfold Path.hasNull at hdirectory ⊢
    rw [Path.append_parts, List.any_append, hdirectory, Bool.false_or]
  · rfl

theorem Loaded.buildsInside_iff (h : Loaded files project) :
    project.BuildsInside ↔ project.target.anchor = project.directory.anchor ∧
      project.directory.parts <+: project.target.parts := by
  unfold BuildsInside target buildPath Path.join
  rw [h.anchor]
  cases hanchor : (Path.ofText project.config.buildDirectory).anchor with
  | none => simp [h.anchor]
  | root => simp [hanchor]
  | doubleRoot => simp [hanchor]

/-- The path of a schema file goes on from that of the project, where a directory stands. -/
theorem mem_findSchemas (h : schema ∈ findSchemas files directory config) :
    ∃ place relative, files.place directory = .ok place ∧ files.get? place = some .directory ∧
      schema = directory.append relative := by
  unfold findSchemas at h
  have hmem := (List.mem_filter.1 (List.mem_mergeSort.1 h)).1
  unfold FileTree.descendants at hmem
  split at hmem
  · cases hmem
  · next place hplace =>
      split at hmem
      · next hdirectory =>
          obtain ⟨⟨other, entry⟩, -, hother⟩ := List.mem_filterMap.1 hmem
          simp only [Option.ite_none_right_eq_some, Option.some.injEq] at hother
          exact ⟨place, _, hplace, hdirectory, hother.2.symm⟩
      · cases hmem

theorem Loaded.exists_directory (h : Loaded files project) (hschemas : project.schemas ≠ []) :
    ∃ place, files.place project.directory = .ok place ∧ files.get? place = some .directory := by
  obtain ⟨schema, hschema⟩ := List.exists_mem_of_ne_nil _ hschemas
  rw [h.schemas_eq] at hschema
  obtain ⟨place, -, hplace, hdirectory, -⟩ := mem_findSchemas hschema
  exact ⟨place, hplace, hdirectory⟩

theorem exists_relativeTo_schema (h : schema ∈ findSchemas files directory config) :
    ∃ relative, schema.relativeTo directory = .ok relative := by
  obtain ⟨-, relative, -, -, rfl⟩ := mem_findSchemas h
  exact Path.exists_relativeTo rfl (List.prefix_append _ _)

end Project

end RecordMirror
