import RecordMirror.Proofs.Build.Compilation
import RecordMirror.Proofs.FileTree.Directories
import RecordMirror.Proofs.Path
/-!
What building changes.  A build that fails before it writes leaves the tree as it was.  A build that
succeeds changes the places of its modules and makes the directories on the way to them.
-/

namespace RecordMirror

namespace FileTree

variable {t written : FileTree} {path : Path} {text : String}

theorem writeText_place {place : Place} (h : t.writeText path text = .ok written)
    {other : Path} (hother : t.place other = .ok place) : written.place other = .ok place := by
  obtain ⟨target, -, htarget, rfl⟩ := writeText_ok h
  exact place_put htarget hother

theorem writeText_hasFile (h : t.writeText path text = .ok written) :
    ∃ place, written.place path = .ok place ∧
      written.get? place = some (.file (utf8OfText text)) := by
  obtain ⟨place, hplace, htarget, rfl⟩ := writeText_ok h
  have hroot : place ≠ .root := by
    rintro rfl
    exact htarget rfl
  exact ⟨place, place_put htarget hplace, get?_put_self t hroot _⟩

theorem writeText_eq_nullCharacter {cause : AccessError} (h : t.writeText path text = .error cause)
    (hcause : cause.fault = .nullCharacter) : path.hasNull = true := by
  rw [← place_eq_nullCharacter (t := t)]
  unfold writeText at h
  cases hplace : t.place path with
  | error fault =>
      rw [hplace] at h
      cases h
      exact congrArg Except.error hcause
  | ok place =>
      rw [hplace] at h
      by_cases hdirectory : t.get? place = some .directory
      · simp only [hdirectory, if_true] at h
        cases h
        cases hcause
      · simp [hdirectory] at h

theorem writeText_frame {place : Place} (h : t.writeText path text = .ok written)
    (hplace : written.place path ≠ .ok place) : written.get? place = t.get? place := by
  obtain ⟨target, htarget, hdirectory, rfl⟩ := writeText_ok h
  apply get?_put_of_ne
  rintro rfl
  exact hplace (place_put hdirectory htarget)

theorem writeText_directory {place : Place} (h : t.writeText path text = .ok written)
    (hplace : t.get? place = some .directory) : written.get? place = some .directory := by
  obtain ⟨target, -, hdirectory, rfl⟩ := writeText_ok h
  rw [get?_put_of_ne]
  · exact hplace
  · rintro rfl
    exact hdirectory hplace

end FileTree

namespace Build

variable {t files written : FileTree} {directory : Path} {config : Config} {schemas : List Path}
  {modules : List BuiltModule} {built : BuiltModule}

theorem writeAll_cons_eq_ok :
    writeAll t (built :: modules) = (written, .ok ()) ↔
      ∃ next, t.writeText built.output built.text = .ok next ∧
        writeAll next modules = (written, .ok ()) := by
  rw [writeAll]
  cases t.writeText built.output built.text <;> simp

/-- What holds of a tree and is kept by writing a module is kept by writing all of them. -/
theorem writeAll_induction {P : FileTree → Prop} (h : writeAll t modules = (written, .ok ()))
    (hstart : P t)
    (hstep : ∀ {t next : FileTree} {path text}, t.writeText path text = .ok next → P t → P next) :
    P written := by
  induction modules generalizing t with
  | nil =>
      cases h
      exact hstart
  | cons built modules ih =>
      obtain ⟨next, hfirst, hrest⟩ := writeAll_cons_eq_ok.1 h
      exact ih hrest (hstep hfirst hstart)

theorem writeAll_place {path : Path} {place : Place}
    (h : writeAll t modules = (written, .ok ())) (hplace : t.place path = .ok place) :
    written.place path = .ok place :=
  writeAll_induction h hplace fun hwrite => FileTree.writeText_place hwrite

theorem writeAll_directory {place : Place} (h : writeAll t modules = (written, .ok ()))
    (hplace : t.get? place = some .directory) : written.get? place = some .directory :=
  writeAll_induction h hplace fun hwrite => FileTree.writeText_directory hwrite

/-- A place that is changed holds the module that was written there last. -/
theorem writeAll_changes {place : Place} (h : writeAll t modules = (written, .ok ()))
    (hplace : written.get? place ≠ t.get? place) :
    ∃ built ∈ modules, written.place built.output = .ok place ∧
      written.get? place = some (.file (utf8OfText built.text)) := by
  induction modules generalizing t with
  | nil =>
      cases h
      exact absurd rfl hplace
  | cons built modules ih =>
      obtain ⟨next, hfirst, hrest⟩ := writeAll_cons_eq_ok.1 h
      by_cases hlater : written.get? place = next.get? place
      · by_cases hleads : next.place built.output = .ok place
        · obtain ⟨target, htarget, hfile⟩ := FileTree.writeText_hasFile hfirst
          cases htarget.symm.trans hleads
          exact ⟨built, List.mem_cons_self, writeAll_place hrest hleads, hlater.trans hfile⟩
        · exact absurd (hlater.trans (FileTree.writeText_frame hfirst hleads)) hplace
      · obtain ⟨other, hother, hfile⟩ := ih hrest hlater
        exact ⟨other, List.mem_cons_of_mem _ hother, hfile⟩

/-- A module that is written is read, or another one that is written to the same place. -/
theorem writeAll_holds (h : writeAll t modules = (written, .ok ())) (hbuilt : built ∈ modules) :
    ∃ place, written.place built.output = .ok place ∧
      ∃ last ∈ modules, written.place last.output = .ok place ∧
        written.get? place = some (.file (utf8OfText last.text)) := by
  induction modules generalizing t with
  | nil => exact absurd hbuilt List.not_mem_nil
  | cons first modules ih =>
      obtain ⟨next, hfirst, hrest⟩ := writeAll_cons_eq_ok.1 h
      rcases List.mem_cons.1 hbuilt with rfl | hbuilt
      · obtain ⟨place, hplace, hfile⟩ := FileTree.writeText_hasFile hfirst
        have hplace := writeAll_place hrest hplace
        refine ⟨place, hplace, ?_⟩
        by_cases hlater : written.get? place = next.get? place
        · exact ⟨built, List.mem_cons_self, hplace, hlater.trans hfile⟩
        · obtain ⟨last, hlast, hfound⟩ := writeAll_changes hrest hlater
          exact ⟨last, List.mem_cons_of_mem _ hlast, hfound⟩
      · obtain ⟨place, hplace, last, hlast, hfound⟩ := ih hrest hbuilt
        exact ⟨place, hplace, last, List.mem_cons_of_mem _ hlast, hfound⟩

theorem writeAll_eq_nullCharacter {cause : AccessError}
    (h : writeAll t modules = (written, .error cause)) (hcause : cause.fault = .nullCharacter) :
    ∃ built ∈ modules, built.output.hasNull = true := by
  induction modules generalizing t with
  | nil => cases h
  | cons built modules ih =>
      rw [writeAll] at h
      cases hfirst : t.writeText built.output built.text with
      | error stop =>
          rw [hfirst] at h
          cases h
          exact ⟨built, List.mem_cons_self, FileTree.writeText_eq_nullCharacter hfirst hcause⟩
      | ok next =>
          rw [hfirst] at h
          obtain ⟨other, hother, hnull⟩ := ih h
          exact ⟨other, List.mem_cons_of_mem _ hother, hnull⟩

/-- The modules that a build returns, the tree it leaves, and the tree it began with. -/
structure Built (files : FileTree) (schemas : List Path) (directory : Path) (config : Config)
    (written : FileTree) (modules : List BuiltModule) : Prop where
  /-- There is one module for each schema file of the list. -/
  schemas_eq : modules.map BuiltModule.schema = schemas
  /-- A module lies in the directory and is named like its schema file. -/
  output : ∀ built ∈ modules, built.output.anchor = directory.anchor ∧
    built.output.parts = directory.parts ++ [built.schema.stem ++ "_mirrors.py"]
  outputs_nodup : (modules.map BuiltModule.output).Nodup
  /-- The module of a schema file is compiled from its own text as it was before. -/
  compiles : ∀ built ∈ modules, Compiles files config built.schema built.text
  holds : ∀ built ∈ modules, written.read built.output = .ok (utf8OfText built.text)
  /-- What changes is a module or a directory on the way to them that was not there. -/
  changes : ∀ place, written.get? place ≠ files.get? place →
    (∃ built ∈ modules, written.place built.output = .ok place) ∨
      (files.get? place = none ∧ written.get? place = some .directory ∧
        ∃ first : Path, first.anchor = directory.anchor ∧ first.parts <+: directory.parts ∧
          written.place first = .ok place)
  workingDirectory : written.workingDirectory = files.workingDirectory

/-! ### Where modules are written -/

/-- The name of a module is that of a file. -/
theorem isFileName_output (schema : Path) : isFileName (schema.stem ++ "_mirrors.py") = true := by
  have hne : ∀ name : String, name.length < 11 → schema.stem ++ "_mirrors.py" ≠ name := by
    rintro name hname rfl
    rw [String.length_append] at hname
    exact absurd hname (Nat.not_lt.2 (Nat.le_add_left _ _))
  have hslash : '/' ∉ (schema.stem ++ "_mirrors.py").toList := by
    rw [String.toList_append, List.mem_append, not_or]
    exact ⟨fun hmem => schema.slash_not_mem_name (schema.stem_subset hmem), by decide⟩
  have hpart : isPathPart (schema.stem ++ "_mirrors.py") = true :=
    Path.isPathPart_iff.2 ⟨hne "" (by decide), hne "." (by decide), hslash⟩
  rw [isFileName, hpart]
  exact decide_eq_true (hne Path.up (by decide))

theorem isPathPart_output (schema : Path) : isPathPart (schema.stem ++ "_mirrors.py") = true :=
  (Bool.and_eq_true_iff.1 (isFileName_output schema)).1

theorem outputPath_anchor (directory schema : Path) :
    (outputPath directory schema).anchor = directory.anchor :=
  Path.child_anchor (isPathPart_output schema) directory

theorem outputPath_parts (directory schema : Path) :
    (outputPath directory schema).parts =
      directory.parts ++ [schema.stem ++ "_mirrors.py"] :=
  Path.child_parts (isPathPart_output schema) directory

theorem hasNull_of_outputPath {schema : Path} (h : (outputPath directory schema).hasNull = true) :
    directory.hasNull = true ∨ schema.hasNull = true := by
  rw [Path.hasNull, outputPath_parts, List.any_append, Bool.or_eq_true] at h
  refine h.imp_right ?_
  intro hlast
  have hmem : '\x00' ∈ (schema.stem ++ "_mirrors.py").toList := by simpa using hlast
  rw [String.toList_append, List.mem_append] at hmem
  exact Path.hasNull_of_mem_name (schema.stem_subset (hmem.resolve_right (by decide)))

/-- The last name of the place of a module is the name of the module. -/
theorem place_outputPath {schema : Path} {place : Place}
    (h : t.place (outputPath directory schema) = .ok place) :
    ∃ above : Place, place.names = above.names ++ [schema.stem ++ "_mirrors.py"] := by
  obtain ⟨-, -, hfollow⟩ := FileTree.place_eq_ok h
  rw [outputPath_parts] at hfollow
  obtain ⟨above, -, hplace⟩ := FileTree.follow_concat (isFileName_output schema) hfollow
  exact ⟨above, hplace⟩

/-- Modules of one directory that have the same place have the same path. -/
theorem outputPath_eq_of_place {schema other : Path} {place : Place}
    (h : t.place (outputPath directory schema) = .ok place)
    (h' : t.place (outputPath directory other) = .ok place) :
    outputPath directory schema = outputPath directory other := by
  obtain ⟨above, hplace⟩ := place_outputPath h
  obtain ⟨above', hplace'⟩ := place_outputPath h'
  have hnames := List.append_inj_right' (hplace.symm.trans hplace') rfl
  apply Path.ext
  · rw [outputPath_anchor, outputPath_anchor]
  · rw [outputPath_parts, outputPath_parts, hnames]

/-! ### Runs -/

/-- All that a build can do. -/
theorem run_cases (files : FileTree) (schemas : List Path) (directory : Path) (config : Config) :
    (∃ cause, compileAll files directory config [] schemas = .error cause ∧
      run files schemas directory config = (files, .error cause)) ∨
    ∃ modules, compileAll files directory config [] schemas = .ok modules ∧
      ((∃ tree cause, run files schemas directory config = (tree, .error (.unwritable cause)) ∧
          (files.ensureDirectory directory = (tree, .error cause) ∨
            ∃ made, writeAll made modules = (tree, .error cause))) ∨
        ∃ made written, files.ensureDirectory directory = (made, .ok ()) ∧
          writeAll made modules = (written, .ok ()) ∧
          run files schemas directory config = (written, .ok modules)) := by
  unfold run
  cases compileAll files directory config [] schemas with
  | error cause => exact .inl ⟨cause, rfl, rfl⟩
  | ok modules =>
      refine .inr ⟨modules, rfl, ?_⟩
      rcases files.ensureDirectory directory with ⟨made, cause | ⟨⟩⟩
      · exact .inl ⟨made, cause, rfl, .inl rfl⟩
      · rcases hwrite : writeAll made modules with ⟨written, cause | ⟨⟩⟩
        · exact .inl ⟨written, cause, by simp only [hwrite], .inr ⟨made, hwrite⟩⟩
        · exact .inr ⟨made, written, rfl, hwrite, by simp only [hwrite]⟩

theorem exists_run_eq_ok
    (h : (run files schemas directory config).2.toOption.isSome = true) :
    ∃ written modules, run files schemas directory config = (written, .ok modules) := by
  rcases hrun : run files schemas directory config with ⟨written, cause | modules⟩
  · rw [hrun] at h
    cases h
  · exact ⟨written, modules, rfl⟩

theorem run_eq_ok (h : run files schemas directory config = (written, .ok modules)) :
    compileAll files directory config [] schemas = .ok modules ∧
      ∃ made, files.ensureDirectory directory = (made, .ok ()) ∧
        writeAll made modules = (written, .ok ()) := by
  rcases run_cases files schemas directory config with
    ⟨cause, -, hrun⟩ |
    ⟨compiled, hcompile, ⟨tree, cause, hrun, -⟩ | ⟨made, tree, hmade, hwrite, hrun⟩⟩
  · cases h.symm.trans hrun
  · cases h.symm.trans hrun
  · cases h.symm.trans hrun
    exact ⟨hcompile, made, hmade, hwrite⟩

/-- No module is written where a directory was. -/
theorem output_ne_of_directory {path : Path} {place : Place}
    (h : run files schemas directory config = (written, .ok modules)) (hbuilt : built ∈ modules)
    (hplace : files.place path = .ok place) (hdirectory : files.get? place = some .directory) :
    built.output ≠ path := by
  rintro rfl
  obtain ⟨-, made, hensure, hwrite⟩ := run_eq_ok h
  have hkept : files.Kept made := by
    have := (files.ensureDirectory_madeToward directory).kept
    rwa [hensure] at this
  obtain ⟨target, htarget, last, -, -, hfile⟩ := writeAll_holds hwrite hbuilt
  cases htarget.symm.trans (writeAll_place hwrite (hkept.place hplace))
  cases hfile.symm.trans (writeAll_directory hwrite (hkept.found hdirectory))

/-- Only a directory with a null character keeps a build from writing for that reason. -/
theorem run_eq_nullCharacter {tree : FileTree} {cause : AccessError}
    (hread : ∀ schema ∈ schemas, ∃ source, files.readText schema = .ok source)
    (h : run files schemas directory config = (tree, .error (.unwritable cause)))
    (hcause : cause.fault = .nullCharacter) : directory.hasNull = true := by
  rcases run_cases files schemas directory config with
    ⟨stop, hcompile, hrun⟩ |
    ⟨modules, hcompile, ⟨tree, stop, hrun, hstop⟩ | ⟨-, written, -, -, hrun⟩⟩
  · cases h.symm.trans hrun
    obtain ⟨fault, hfault⟩ := compileAll_eq_error hread hcompile
    cases hfault
  · cases h.symm.trans hrun
    rcases hstop with hensure | ⟨made, hwrite⟩
    · exact FileTree.ensureDirectory_eq_nullCharacter hensure hcause
    · obtain ⟨built, hbuilt, hnull⟩ := writeAll_eq_nullCharacter hwrite hcause
      obtain ⟨hschemas, hall, -, -⟩ := compileAll_eq_ok hcompile
      have hschema : built.schema ∈ schemas := hschemas ▸ List.mem_map_of_mem hbuilt
      obtain ⟨source, hsource⟩ := hread _ hschema
      rw [(hall built hbuilt).1] at hnull
      refine (hasNull_of_outputPath hnull).resolve_right ?_
      exact Bool.eq_false_iff.1 (FileTree.hasNull_of_readText hsource)
  · cases h.symm.trans hrun

theorem Built.of_run (h : run files schemas directory config = (written, .ok modules)) :
    Built files schemas directory config written modules := by
  obtain ⟨hcompile, made, hensure, hwrite⟩ := run_eq_ok h
  obtain ⟨hschemas, hall, hnodup, -⟩ := compileAll_eq_ok hcompile
  have hmade : files.MadeToward made directory := by
    have := files.ensureDirectory_madeToward directory
    rwa [hensure] at this
  refine ⟨hschemas, ?_, hnodup, fun built hbuilt => (hall built hbuilt).2, ?_, ?_, ?_⟩
  · intro built hbuilt
    rw [(hall built hbuilt).1]
    exact ⟨outputPath_anchor directory _, outputPath_parts directory _⟩
  · intro built hbuilt
    obtain ⟨place, hplace, last, hlast, hleads, hfile⟩ := writeAll_holds hwrite hbuilt
    -- Modules at one place have the same path, so the last one written there is this one.
    have hsame : last = built := by
      apply List.inj_on_of_nodup_map hnodup hlast hbuilt
      have hbuiltLeads := hplace
      rw [(hall built hbuilt).1] at hbuiltLeads ⊢
      rw [(hall last hlast).1] at hleads ⊢
      exact outputPath_eq_of_place hleads hbuiltLeads
    subst hsame
    simp only [FileTree.read, hplace, hfile]
  · intro place hplace
    by_cases hlater : written.get? place = made.get? place
    · rw [hlater] at hplace ⊢
      obtain ⟨hdirectory, first, hanchor, hfirst, hleads⟩ := hmade.on_way place hplace
      refine .inr ⟨?_, hdirectory, first, hanchor, hfirst, writeAll_place hwrite hleads⟩
      cases hbefore : files.get? place with
      | none => rfl
      | some entry => exact absurd ((hmade.kept.found hbefore).trans hbefore.symm) hplace
    · obtain ⟨built, hbuilt, hleads, -⟩ := writeAll_changes hwrite hlater
      exact .inl ⟨built, hbuilt, hleads⟩
  · apply writeAll_induction
      (P := fun tree => tree.workingDirectory = files.workingDirectory) hwrite
    · exact hmade.kept.workingDirectory
    · intro t next path text htext ht
      obtain ⟨place, -, -, rfl⟩ := FileTree.writeText_ok htext
      exact ht

/-- A build writes nothing unless every schema file compiles, and changes nothing but the places of
its modules and the directories on the way to them. -/
theorem run_all_or_nothing :
    (SomeFails files directory config schemas →
      ∃ cause, run files schemas directory config = (files, .error cause)) ∧
    (¬SomeFails files directory config schemas →
      (∃ written modules, run files schemas directory config = (written, .ok modules)) ∨
        ∃ tree cause, run files schemas directory config = (tree, .error (.unwritable cause))) ∧
    ∀ written modules, run files schemas directory config = (written, .ok modules) →
      Built files schemas directory config written modules := by
  refine ⟨?_, ?_, fun written modules => .of_run⟩
  · intro hfails
    rcases run_cases files schemas directory config with ⟨cause, -, hrun⟩ | ⟨modules, hcompile, -⟩
    · exact ⟨cause, hrun⟩
    · exact absurd hfails (exists_compileAll_iff_not_someFails.1 ⟨modules, hcompile⟩)
  · intro hfits
    obtain ⟨modules, hcompile⟩ := exists_compileAll_iff_not_someFails.2 hfits
    rcases run_cases files schemas directory config with
      ⟨cause, hcause, -⟩ | ⟨compiled, -, ⟨tree, cause, hrun, -⟩ | ⟨-, written, -, -, hrun⟩⟩
    · cases hcompile.symm.trans hcause
    · exact .inr ⟨tree, cause, hrun⟩
    · exact .inl ⟨written, compiled, hrun⟩

/-- A directory with two schema files. -/
def shop : FileTree :=
  .holding ["shop"]
    [(["shop"], .directory),
      (["shop", "customers.mirror"], .file (utf8OfText
        "@mirror record Customer \x7b @persisted name: String \x7d")),
      (["shop", "orders.mirror"], .file (utf8OfText
        "@mirror record Order \x7b @persisted items: List<String> \x7d"))]

/-- Both schema files of the shop are built into a directory that is made, but not one of them when
it is listed twice. -/
theorem run_all_or_nothing_shop :
    (∃ written modules,
      run shop (["customers.mirror", "orders.mirror"].map Path.ofText)
        (Path.ofText "build/mirrors") {} = (written, .ok modules) ∧
      Built shop (["customers.mirror", "orders.mirror"].map Path.ofText)
        (Path.ofText "build/mirrors") {} written modules) ∧
    ∃ cause, run shop (["customers.mirror", "customers.mirror"].map Path.ofText)
      (Path.ofText "build/mirrors") {} = (shop, .error cause) := by
  constructor
  · obtain ⟨written, modules, hrun⟩ :
        ∃ written modules, run shop (["customers.mirror", "orders.mirror"].map Path.ofText)
          (Path.ofText "build/mirrors") {} = (written, .ok modules) :=
      exists_run_eq_ok (by decide +kernel)
    exact ⟨written, modules, hrun, run_all_or_nothing.2.2 written modules hrun⟩
  · exact run_all_or_nothing.1
      ⟨[Path.ofText "customers.mirror"], _, [], rfl, .outputTaken List.mem_cons_self rfl⟩

end Build

end RecordMirror
