import RecordMirror.Plan.File
import RecordMirror.Proofs.FileTree
import RecordMirror.Proofs.Json.RoundTrip
/-!
Documents of plans are read back: the object of a plan is decoded to it, the document of some plans
is the written object of their objects, and files give back what was stored in them.
-/

namespace RecordMirror

namespace Json

/-- Items are decoded to what they were made from, whichever index the first one has. -/
theorem decodeItems_map {α : Type} {decode : Json → Decoded α} {encode : α → Json}
    (h : ∀ value, decode (encode value) = .ok value) (n : Nat) (values : List α) :
    decodeItems decode n (values.map encode) = .ok values := by
  induction values generalizing n with
  | nil => rfl
  | cons value values ih =>
      rw [List.map_cons, decodeItems, ih, h]
      rfl

theorem toTupleOf_array {α : Type} {decode : Json → Decoded α} {encode : α → Json}
    (h : ∀ value, decode (encode value) = .ok value) (values : List α) :
    toTupleOf decode (.array (values.map encode)) = .ok values :=
  decodeItems_map h 0 values

theorem toChoice_name {α : Type} {ofName? : String → Option α} {name : α → String}
    (h : ∀ choice, ofName? (name choice) = some choice) (choice : α) :
    toChoice ofName? (.string (name choice)) = .ok choice := by
  rw [toChoice, h]

theorem required_of_member {α : Type} {members : List (String × Json)} {name : String}
    {found : Json} {decode : Json → Decoded α} {value : α}
    (hmember : member? members name = some found) (hdecode : decode found = .ok value) :
    required members name decode = .ok value := by
  simp only [required, hmember, hdecode, Decoded.within]

theorem optional_of_member {α : Type} {members : List (String × Json)} {name : String}
    {found : Json} {decode : Json → Decoded α} {value default : α}
    (hmember : member? members name = some found) (hdecode : decode found = .ok value) :
    Json.optional members name default decode = .ok value := by
  simp only [Json.optional, hmember, hdecode, Decoded.within]

theorem OfTexts.map {α : Type} {encode : α → Json} (h : ∀ value, (encode value).OfTexts)
    (values : List α) : (Json.array (values.map encode)).OfTexts := by
  apply OfTexts.array
  intro item hitem
  obtain ⟨value, -, rfl⟩ := List.mem_map.1 hitem
  exact h value

end Json

open Json

namespace FieldMapping

theorem ofJson_toJson (m : FieldMapping) : ofJson m.toJson = .ok m := by
  have htext : ∀ s, toText (.string s) = .ok s := fun _ => rfl
  rw [toJson, ofJson, required_of_member rfl (htext m.name),
    required_of_member rfl (htext m.declaredType),
    required_of_member rfl (toChoice_name Shape.ofName?_name m.shape),
    required_of_member rfl (htext m.declaration), required_of_member rfl (htext m.forward),
    required_of_member rfl (htext m.backward),
    optional_of_member rfl (toTupleOf_array htext m.imports)]
  rfl

theorem toJson_ofTexts (m : FieldMapping) : m.toJson.OfTexts := by
  apply OfTexts.object
  · simp
  · intro member hmember
    simp only [List.mem_cons, List.not_mem_nil, or_false] at hmember
    rcases hmember with rfl | rfl | rfl | rfl | rfl | rfl | rfl
    case inr.inr.inr.inr.inr.inr => exact OfTexts.map OfTexts.string m.imports
    all_goals exact .string _

end FieldMapping

namespace Plan

theorem ofJson_toJson (p : Plan) : ofJson p.toJson = .ok p := by
  have htext : ∀ s, toText (.string s) = .ok s := fun _ => rfl
  rw [toJson, ofJson, required_of_member rfl (htext p.record),
    required_of_member rfl (htext p.mirror),
    required_of_member rfl (toChoice_name Mode.ofName?_name p.mode),
    optional_of_member rfl (toTupleOf_array FieldMapping.ofJson_toJson p.fields)]
  rfl

theorem toJson_ofTexts (p : Plan) : p.toJson.OfTexts := by
  apply OfTexts.object
  · simp
  · intro member hmember
    simp only [List.mem_cons, List.not_mem_nil, or_false] at hmember
    rcases hmember with rfl | rfl | rfl | rfl
    case inr.inr.inr => exact OfTexts.map FieldMapping.toJson_ofTexts p.fields
    all_goals exact .string _

/-- The document of some plans. -/
def document (plans : List Plan) : Json :=
  .object [("v", .string formatVersion), ("records", .array (plans.map toJson))]

theorem document_ofTexts (plans : List Plan) : (document plans).OfTexts := by
  apply OfTexts.object
  · simp
  · intro member hmember
    simp only [List.mem_cons, List.not_mem_nil, or_false] at hmember
    rcases hmember with rfl | rfl
    · exact .string _
    · exact OfTexts.map toJson_ofTexts plans

theorem ofItems_map (plans : List Plan) : ofItems (plans.map toJson) = .ok plans := by
  induction plans with
  | nil => rfl
  | cons p plans ih =>
      rw [List.map_cons, ofItems, ofJson_toJson, ih]
      rfl

theorem ofDocument_document (plans : List Plan) : ofDocument (document plans) = .ok plans := by
  -- The document names the version that is read, so its records decide.
  change ofItems (plans.map toJson) = .ok plans
  exact ofItems_map plans

/-- The document of some plans is read as those plans. -/
theorem deserialize_serialize (plans : List Plan) : deserialize (serialize plans) = .ok plans := by
  have hparse : Json.parse (serialize plans) = .ok (document plans) :=
    parse_render (document_ofTexts plans)
  simp only [deserialize, hparse, ofDocument_document]

theorem serialize_plain (plans : List Plan) : '\r' ∉ (serialize plans).toList := by
  intro hmem
  rw [serialize, render, String.toList_ofList] at hmem
  have hplain := (document_ofTexts plans).isPlainText 0 _ hmem
  exact absurd hplain (by decide)

/-- What was stored in a file is loaded from it. -/
theorem load_of_store {files stored : FileTree} {plans : List Plan} {path : Path}
    (h : store files plans path = (stored, .ok ())) : load stored path = .ok plans := by
  unfold store at h
  split at h
  · cases h
  · split at h
    · cases h
    · rename_i hwrite
      cases h
      have hread := FileTree.readText_of_writeText hwrite (serialize_plain plans)
      simp only [load, hread, deserialize_serialize]
      rfl

/-- Whether plans can be stored depends on the files and the path alone. -/
theorem store_outcome (files : FileTree) (path : Path) (plans others : List Plan) :
    (store files plans path).2 = (store files others path).2 := by
  unfold store
  split
  · rfl
  · rename_i made _
    have hsame := fun cause =>
      @FileTree.writeText_error_iff made path (serialize plans) cause (serialize others)
    cases hwrite : made.writeText path (serialize plans) with
    | error cause => rw [(hsame cause).1 hwrite]
    | ok written =>
        cases hother : made.writeText path (serialize others) with
        | error cause =>
            rw [(hsame cause).2 hother] at hwrite
            cases hwrite
        | ok written' => rfl

/-- Documents of plans round-trip: the text of any plans is read as exactly these plans, in their
order, and so is a file they were stored in, which can be written for all plans if for any.  So no
two lists of plans have one text. -/
theorem documents_round_trip :
    (∀ plans, deserialize (serialize plans) = .ok plans) ∧
      (∀ files plans path stored, store files plans path = (stored, .ok ()) →
        load stored path = .ok plans) ∧
      (∀ files plans others path, (store files plans path).2 = (store files others path).2) ∧
      Function.Injective serialize := by
  refine ⟨deserialize_serialize, fun _ _ _ _ h => load_of_store h,
    fun files plans others path => store_outcome files path plans others, ?_⟩
  intro plans others h
  have hread := deserialize_serialize plans
  rw [h, deserialize_serialize others] at hread
  cases hread
  rfl

/-- Plans with a quote, a line end and a character of two units in a name are stored and loaded. -/
theorem documents_round_trip_stored :
    let plans : List Plan := [⟨"\"A\n", "Readonly😀", .readonly, []⟩]
    ∃ stored, store ⟨.root, []⟩ plans (Path.ofText "a.json") = (stored, .ok ()) ∧
      load stored (Path.ofText "a.json") = .ok plans := by
  intro plans
  have hstore : ∃ stored, store ⟨.root, []⟩ plans (Path.ofText "a.json") = (stored, .ok ()) := by
    have hparent : FileTree.ensureDirectory ⟨.root, []⟩ (Path.ofText "a.json").parent =
        (⟨.root, []⟩, .ok ()) := by
      rw [FileTree.ensureDirectory]
      rfl
    simp only [store, hparent]
    exact ⟨_, rfl⟩
  obtain ⟨stored, hstore⟩ := hstore
  exact ⟨stored, hstore, documents_round_trip.2.1 _ _ _ _ hstore⟩

end Plan

end RecordMirror
