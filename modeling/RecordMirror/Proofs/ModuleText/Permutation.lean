import RecordMirror.Proofs.Code.Module
import RecordMirror.Proofs.Plan.Permutation
/-!
The order of classes.  What stands before the first class of a module is settled by which plans
there are, whatever their order, and the classes follow the plans.
-/

namespace RecordMirror

namespace ModuleText

variable {options : ModuleOptions} {plans plans' : List Plan}

/-- A class in a module, with the empty lines before it. -/
def paragraph (plan : Plan) : String :=
  "\n\n\n" ++ plan.classText

theorem intercalate_paragraphs {lines : List String} (hlines : lines ≠ []) :
    "\n".intercalate (lines ++ plans.flatMap fun plan => ["", "", plan.classText]) =
      "\n".intercalate lines ++ String.join (plans.map paragraph) := by
  induction plans generalizing lines with
  | nil => simp
  | cons plan rest ih =>
      have hclass : "\n".intercalate ["", "", plan.classText] = "\n\n" ++ plan.classText := by
        simp [String.intercalate_cons_cons, ← String.append_assoc]
      have hparagraph : "\n" ++ ("\n\n" ++ plan.classText) = paragraph plan := by
        rw [← String.append_assoc]
        rfl
      rw [List.flatMap_cons, ← List.append_assoc, ih (by simp),
        String.intercalate_append_of_ne_nil hlines (by simp), hclass, List.map_cons,
        String.join_cons, ← hparagraph]
      simp only [String.append_assoc]

theorem recordImport_perm (persistentModule : Option String) (h : plans.Perm plans') :
    recordImport persistentModule plans = recordImport persistentModule plans' := by
  have hrecords : sortedDistinct (plans.map (·.record)) = sortedDistinct (plans'.map (·.record)) :=
    sortedDistinct_congr fun t => (h.map _).mem_iff
  simp only [recordImport, hrecords]

/-- What stands before the classes does not depend on the order of the plans. -/
theorem preamble_perm (h : plans.Perm plans') :
    preamble options plans = preamble options plans' := by
  have himports : sortedDistinct (dataclassImport :: plans.flatMap (·.imports)) =
      sortedDistinct (dataclassImport :: plans'.flatMap (·.imports)) :=
    sortedDistinct_congr fun t => ((h.flatMap_right _).cons dataclassImport).mem_iff
  have hobservable : plans.any (·.mode == .observable) = plans'.any (·.mode == .observable) :=
    h.any_eq
  simp only [preamble, himports, hobservable, recordImport_perm options.persistentModule h]

/-- A module is what stands before its classes, and a paragraph for each plan. -/
theorem exists_paragraphs (options : ModuleOptions) (h : ∀ plan ∈ plans, plan.Typed) :
    ∃ lines, preamble options plans = .ok lines ∧ moduleText options plans =
      .ok ("\n".intercalate lines ++ String.join (plans.map paragraph) ++ "\n") := by
  have hlines : preamble options plans = .ok _ := preamble_eq h
  refine ⟨_, hlines, ?_⟩
  simp only [moduleText, hlines, bind, Except.bind, pure, Except.pure,
    intercalate_paragraphs (List.cons_ne_nil _ _)]

end ModuleText

open ModuleText

/-- The order of declarations does not matter.  A schema whose records and enumerations are
reordered has the plans it had, in blocks that follow the records, and a block has one plan for each
request of its record, in order.  The modules of reordered plans are the same up to the first class,
and the classes follow the plans. -/
theorem declaration_order_irrelevant :
    (∀ (options : PlanOptions) (schema schema' : Schema) (plans : List Plan),
      schema.records.Perm schema'.records → schema.enums.Perm schema'.enums →
      Plan.ofSchema options schema = .ok plans →
        ∃ block : Record → List Plan,
          (∀ record ∈ schema.records,
            (block record).map (fun plan => (plan.record, .ok plan.mode)) =
              (Plan.named options.defaultMode record.mirrors).map (record.name, ·)) ∧
          plans = schema.records.flatMap block ∧
          Plan.ofSchema options schema' = .ok (schema'.records.flatMap block)) ∧
    ∀ (options : ModuleOptions) (plans plans' : List Plan),
      (∀ plan ∈ plans, ∃ scope mode record, Plan.ofRecord scope mode record = .ok plan) →
      plans.Perm plans' →
        ∃ start,
          moduleText options plans =
            .ok (start ++ String.join (plans.map paragraph) ++ "\n") ∧
          moduleText options plans' =
            .ok (start ++ String.join (plans'.map paragraph) ++ "\n") := by
  refine ⟨fun options schema schema' plans => Plan.ofSchema_perm, ?_⟩
  intro options plans plans' hplanned hperm
  have htyped : ∀ plan ∈ plans, plan.Typed := by
    intro plan hplan
    obtain ⟨scope, mode, record, hrecord⟩ := hplanned plan hplan
    exact Plan.typed_of_ofRecord hrecord
  obtain ⟨lines, hlines, htext⟩ := exists_paragraphs options htyped
  obtain ⟨lines', hlines', htext'⟩ := exists_paragraphs options
    fun plan hplan => htyped plan (hperm.mem_iff.2 hplan)
  obtain rfl : lines = lines' :=
    Except.ok.inj (hlines.symm.trans ((preamble_perm hperm).trans hlines'))
  exact ⟨"\n".intercalate lines, htext, htext'⟩

/-- Two records that refer to each other and are mirrored in both modes, the other way round. -/
theorem declaration_order_irrelevant_pens :
    let pen : Record := ⟨"Pen", [⟨"box", "Box?", true⟩], [⟨some "observable", 1⟩, ⟨none, 2⟩]⟩
    let box : Record := ⟨"Box", [⟨"pens", "Map<Color, List<Pen>>", true⟩],
      [⟨none, 3⟩, ⟨some "'observable'", 3⟩]⟩
    let schema : Schema := ⟨[pen, box], [⟨"Color", []⟩, ⟨"Size", ["small"]⟩]⟩
    let schema' : Schema := ⟨[box, pen], [⟨"Size", ["small"]⟩, ⟨"Color", []⟩]⟩
    let options : PlanOptions := ⟨.readonly, true, "pens"⟩
    ∃ plans plans' start, schema.records.Perm schema'.records ∧ schema.enums.Perm schema'.enums ∧
      Plan.ofSchema options schema = .ok plans ∧ Plan.ofSchema options schema' = .ok plans' ∧
      (∀ plan ∈ plans, ∃ scope mode record, Plan.ofRecord scope mode record = .ok plan) ∧
      plans.Perm plans' ∧
      moduleText ⟨some "models", some "pens"⟩ plans =
        .ok (start ++ String.join (plans.map paragraph) ++ "\n") ∧
      moduleText ⟨some "models", some "pens"⟩ plans' =
        .ok (start ++ String.join (plans'.map paragraph) ++ "\n") := by
  intro pen box schema schema' options
  have hrecords : schema.records.Perm schema'.records := .swap box pen []
  have henums : schema.enums.Perm schema'.enums := .swap _ _ []
  have hmirrors : (Plan.ofSchema options schema).map (List.map Plan.mirror) =
      .ok ["ObservablePen", "ReadonlyPen", "ReadonlyBox", "ObservableBox"] := by decide +kernel
  obtain ⟨plans, hplans, -⟩ := map_eq_ok.1 hmirrors
  obtain ⟨block, -, hblocks, hplans'⟩ :=
    declaration_order_irrelevant.1 options schema schema' plans hrecords henums hplans
  have hperm : plans.Perm (schema'.records.flatMap block) := by
    rw [hblocks]
    exact hrecords.flatMap_right block
  have hplanned : ∀ plan ∈ plans, ∃ scope mode record,
      Plan.ofRecord scope mode record = .ok plan := by
    intro plan hplan
    obtain ⟨requests, -, hrequests⟩ := Plan.ofSchemaFault_eq_ok_iff.1 (mapError_eq_ok.1 hplans)
    obtain ⟨request, -, hrecord⟩ := exists_of_forall₂ hrequests hplan
    exact ⟨_, request.2, request.1, hrecord⟩
  obtain ⟨start, htext, htext'⟩ :=
    declaration_order_irrelevant.2 ⟨some "models", some "pens"⟩ plans _ hplanned hperm
  exact ⟨plans, _, start, hrecords, henums, hplans, hplans', hplanned, hperm, htext, htext'⟩

end RecordMirror
