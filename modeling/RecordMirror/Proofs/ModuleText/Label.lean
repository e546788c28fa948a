import RecordMirror.Proofs.Code.Module
import RecordMirror.Proofs.FileTree
/-!
The label of a module.  A label is written into the header comment and nowhere else, so whatever
follows the header is the same for all labels.  The header is one line exactly if the label ends no
line; any other label brings lines of its own into the module.
-/

namespace RecordMirror

/-! ### Lines of a source -/

/-- The lines of a source.  A carriage return ends a line too, alone or before a line feed. -/
def sourceLines (text : String) : List (List Char) :=
  (unifyLineEnds text.toList).splitOn '\n'

/-- A text that ends no line of a source. -/
def EndsNoLine (text : String) : Prop :=
  '\n' ∉ text.toList ∧ '\r' ∉ text.toList

instance (text : String) : Decidable (EndsNoLine text) :=
  inferInstanceAs (Decidable (_ ∧ _))

theorem endsNoLine_append {text more : String} :
    EndsNoLine (text ++ more) ↔ EndsNoLine text ∧ EndsNoLine more := by
  simp only [EndsNoLine, String.toList_append, List.mem_append, not_or]
  tauto

theorem mem_unifyLineEnds {text : List Char} :
    '\n' ∈ unifyLineEnds text ↔ '\n' ∈ text ∨ '\r' ∈ text := by
  fun_induction unifyLineEnds text with
  | case1 => simp
  | case2 rest ih => simp
  | case3 rest _ ih => simp
  | case4 c rest hpair hreturn ih =>
      have hc : c ≠ '\r' := fun heq => hreturn heq
      simp only [List.mem_cons, ih, Ne.symm hc, false_or]
      tauto

theorem getLast?_ne_of_cons {c d : Char} {text : List Char} (h : (c :: text).getLast? ≠ some d) :
    text.getLast? ≠ some d := by
  intro hlast
  rw [List.getLast?_cons, hlast] at h
  exact h rfl

/-- A line feed ends a line of its own, unless it belongs to the carriage return before it. -/
theorem unifyLineEnds_append {before : List Char} (h : before.getLast? ≠ some '\r')
    (after : List Char) :
    unifyLineEnds (before ++ '\n' :: after) =
      unifyLineEnds before ++ '\n' :: unifyLineEnds after := by
  fun_induction unifyLineEnds before with
  | case1 => rfl
  | case2 rest ih =>
      have hrest := ih (getLast?_ne_of_cons (getLast?_ne_of_cons h))
      simp only [List.cons_append, unifyLineEnds, hrest]
  | case3 rest hpair ih =>
      cases rest with
      | nil => exact absurd rfl h
      | cons c rest =>
          have hc : c ≠ '\n' := by
            rintro rfl
            exact hpair rest rfl
          have hrest := ih (getLast?_ne_of_cons h)
          rw [List.cons_append] at hrest ⊢
          rw [List.cons_append, unifyLineEnds, hrest, List.cons_append]
          intro left heq
          exact hc (List.cons.inj heq).1
  | case4 c rest hpair hreturn ih =>
      have hrest := ih (getLast?_ne_of_cons h)
      rw [List.cons_append, unifyLineEnds, hrest, List.cons_append]
      · intro left heq _
        exact hreturn heq
      · exact hreturn

theorem sourceLines_append {first : String} (h : first.toList.getLast? ≠ some '\r')
    (rest : String) :
    sourceLines (first ++ "\n" ++ rest) = sourceLines first ++ sourceLines rest := by
  have htext : (first ++ "\n" ++ rest).toList = first.toList ++ '\n' :: rest.toList := by simp
  rw [sourceLines, htext, unifyLineEnds_append h, List.splitOn_append_cons_self]
  rfl

theorem sourceLines_of_endsNoLine {text : String} (h : EndsNoLine text) :
    sourceLines text = [text.toList] := by
  rw [sourceLines, unifyLineEnds_of_not_mem h.2, List.splitOn_eq_singleton h.1]

/-- A text that ends a line has more than one. -/
theorem endsNoLine_of_length {text : String} (h : (sourceLines text).length = 1) :
    EndsNoLine text := by
  by_contra hends
  have hmem : '\n' ∈ unifyLineEnds text.toList := by
    rw [mem_unifyLineEnds]
    unfold EndsNoLine at hends
    tauto
  obtain ⟨before, after, hsplit⟩ := List.append_of_mem hmem
  rw [sourceLines, hsplit, List.splitOn_append_cons_self, List.length_append] at h
  have hbefore := List.length_pos_iff.2 (List.splitOn_ne_nil '\n' before)
  have hafter := List.length_pos_iff.2 (List.splitOn_ne_nil '\n' after)
  omega

/-- Two sources that differ inside their first lines at most, each of which is a comment. -/
def SameButComment (source other : String) : Prop :=
  ∃ comment comment' code, sourceLines source = ('#' :: comment) :: code ∧
    sourceLines other = ('#' :: comment') :: code

/-! ### The header of a module -/

namespace ModuleText

theorem header_eq (label : String) :
    header (some label) = "# Generated by mirrorgen" ++
      (if label.isEmpty then "" else " from " ++ label) ++ ". Do not edit." :=
  rfl

theorem header_isComment (label : Option String) :
    ∃ comment, (header label).toList = '#' :: comment := by
  unfold header
  rw [String.toList_append, String.toList_append]
  exact ⟨_, rfl⟩

theorem getLast?_header (label : Option String) : (header label).toList.getLast? ≠ some '\r' := by
  unfold header
  rw [String.toList_append, List.getLast?_append_of_ne_nil _ (by decide)]
  decide

theorem endsNoLine_header {label : String} :
    EndsNoLine (header (some label)) ↔ EndsNoLine label := by
  have hbegin : EndsNoLine "# Generated by mirrorgen" := by decide
  have hend : EndsNoLine ". Do not edit." := by decide
  have hfrom : EndsNoLine " from " := by decide
  rw [header_eq, endsNoLine_append, endsNoLine_append]
  split
  · next hempty =>
      rw [String.isEmpty_iff] at hempty
      subst hempty
      simp [hbegin, hend]
  · simp [hbegin, hend, hfrom, endsNoLine_append]

/-- What follows the header keeps its lines, and a label only changes the first line exactly if it
ends no line itself. -/
theorem sameButComment_iff {label code : String} :
    SameButComment (header (some label) ++ "\n" ++ code) (header none ++ "\n" ++ code) ↔
      EndsNoLine label := by
  have hplain : EndsNoLine (header none) := by decide
  unfold SameButComment
  rw [sourceLines_append (getLast?_header _), sourceLines_append (getLast?_header _),
    sourceLines_of_endsNoLine hplain]
  constructor
  · rintro ⟨comment, comment', rest, hlabelled, hplain⟩
    have hcode : sourceLines code = rest := (List.cons.inj hplain).2
    have hlength := congrArg List.length hlabelled
    rw [List.length_append, hcode, List.length_cons, Nat.add_comm, Nat.add_left_cancel_iff]
      at hlength
    exact endsNoLine_header.1 (endsNoLine_of_length hlength)
  · intro hlabel
    obtain ⟨comment, hcomment⟩ := header_isComment (some label)
    obtain ⟨comment', hcomment'⟩ := header_isComment none
    rw [sourceLines_of_endsNoLine (endsNoLine_header.2 hlabel), hcomment, hcomment']
    exact ⟨comment, comment', sourceLines code, rfl, rfl⟩

end ModuleText

/-- The modules of some plans have the same text after their headers. -/
theorem exists_moduleText {plans : List Plan} (h : ∀ plan ∈ plans, plan.Typed)
    (persistentModule : Option String) :
    ∃ code, ∀ label, moduleText ⟨persistentModule, label⟩ plans =
      .ok (ModuleText.header label ++ "\n" ++ code) := by
  have hlines : (Code.Module.ofPlans persistentModule plans).lines ≠ [] := by
    simp [Code.Module.lines, Code.Module.ofPlans]
  refine ⟨"\n".intercalate (Code.Module.ofPlans persistentModule plans).lines ++ "\n", ?_⟩
  intro label
  rw [moduleText_eq h, Code.Module.render, String.intercalate_cons_of_ne_nil hlines,
    String.append_assoc]

/-- The plans of a source have a module with every label and without one, and these modules differ
in their headers only.  A label changes no more than the first line, and leaves it a comment, if and
only if it ends no line. -/
theorem label_confined_iff {options : PlanOptions} {source : String} {plans : List Plan}
    (hplans : Plan.ofSource options source = .ok plans) (persistentModule : Option String) :
    ∃ code plain, moduleText ⟨persistentModule, none⟩ plans = .ok plain ∧
      plain = ModuleText.header none ++ "\n" ++ code ∧
      ∀ label, ∃ labelled, moduleText ⟨persistentModule, some label⟩ plans = .ok labelled ∧
        labelled = ModuleText.header (some label) ++ "\n" ++ code ∧
        (SameButComment labelled plain ↔ EndsNoLine label) := by
  obtain ⟨code, hcode⟩ := exists_moduleText (Plan.typed_of_ofSource hplans) persistentModule
  refine ⟨code, _, hcode none, rfl, fun label => ?_⟩
  exact ⟨_, hcode (some label), rfl, ModuleText.sameButComment_iff⟩

/-- The name of a file of schemas is a label that stays in its comment. -/
theorem label_confined_iff_tasks :
    let source := "@mirror record Task \x7b @persisted title: String \x7d"
    ∃ plans labelled plain, Plan.ofSource {} source = .ok plans ∧
      moduleText ⟨some "office.models", some "tasks.mirror"⟩ plans = .ok labelled ∧
      moduleText ⟨some "office.models", none⟩ plans = .ok plain ∧
      SameButComment labelled plain := by
  intro source
  have hplanned : (Plan.ofSource {} source).map List.length = .ok 1 := by decide +kernel
  obtain ⟨plans, hplans, -⟩ := map_eq_ok.1 hplanned
  obtain ⟨code, plain, hplain, -, hlabels⟩ := label_confined_iff hplans (some "office.models")
  obtain ⟨labelled, hlabelled, -, hiff⟩ := hlabels "tasks.mirror"
  exact ⟨plans, labelled, plain, hplans, hlabelled, hplain, hiff.2 (by decide)⟩

/-- The name of a file may hold a line end.  What stands after it is a line of code of the
module. -/
theorem label_adds_import :
    let source := "@mirror record Task \x7b @persisted title: String \x7d"
    let label := "tasks\nimport os #.mirror"
    ∃ plans labelled plain code, Plan.ofSource { label := label } source = .ok plans ∧
      moduleText ⟨some "office.models", some label⟩ plans = .ok labelled ∧
      moduleText ⟨some "office.models", none⟩ plans = .ok plain ∧
      sourceLines labelled = "# Generated by mirrorgen from tasks".toList ::
        "import os #.mirror. Do not edit.".toList :: code ∧
      sourceLines plain = "# Generated by mirrorgen. Do not edit.".toList :: code ∧
      ¬SameButComment labelled plain := by
  intro source label
  have hplanned : (Plan.ofSource { label := label } source).map List.length = .ok 1 := by
    decide +kernel
  obtain ⟨plans, hplans, -⟩ := map_eq_ok.1 hplanned
  obtain ⟨code, hcode⟩ := exists_moduleText (Plan.typed_of_ofSource hplans) (some "office.models")
  have hlabelled : sourceLines (ModuleText.header (some label)) =
      ["# Generated by mirrorgen from tasks".toList,
        "import os #.mirror. Do not edit.".toList] := by
    decide +kernel
  have hplain : sourceLines (ModuleText.header none) =
      ["# Generated by mirrorgen. Do not edit.".toList] := by
    decide +kernel
  refine ⟨plans, _, _, sourceLines code, hplans, hcode (some label), hcode none, ?_, ?_, ?_⟩
  · rw [sourceLines_append (ModuleText.getLast?_header _), hlabelled]
    rfl
  · rw [sourceLines_append (ModuleText.getLast?_header _), hplain]
    rfl
  · rw [ModuleText.sameButComment_iff]
    decide

end RecordMirror
