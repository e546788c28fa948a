import Mathlib
import RecordMirror.Plan.Json
import RecordMirror.Proofs.Outcomes
/-!
What reading a document of plans is to end with: the plans, or the reason why the text is refused,
which is that it is no JSON, names another version or holds a record that does not fit.  This is so
for every text but those that are JSON of a shape which reading takes for granted.
-/

namespace RecordMirror

namespace Plan

/-- The version that a JSON value names, if it is a document at all. -/
def versionOf : Json → Json
  | .object members => (Json.member? members "v").getD .null
  | _ => .null

/-- The records of a document, which are none if it has no such member. -/
def recordsOf? (members : List (String × Json)) : Option (List Json) :=
  match Json.member? members "records" with
  | none => some []
  | some (.array items) => some items
  | some _ => none

/-- The records of a document are those plans. -/
def Holds (document : Json) (plans : List Plan) : Prop :=
  ∃ members items, document = .object members ∧ recordsOf? members = some items ∧
    List.Forall₂ (fun item plan => ofJson item = .ok plan) items plans

/-- What reading a text may end with. -/
inductive Promised (text : String) : Except DocumentError (List Plan) → Prop
  | unreadable {cause : JsonError} (hparse : Json.parse text = .error cause) :
      Promised text (.error (.unreadable cause))
  | version {document : Json} (hparse : Json.parse text = .ok document)
      (hversion : versionOf document ≠ .string formatVersion) :
      Promised text (.error (.version (versionOf document)))
  | invalid {document : Json} {issues : List Issue} (hparse : Json.parse text = .ok document)
      (hversion : versionOf document = .string formatVersion)
      (hrecords : ∀ plans, ¬Holds document plans) : Promised text (.error (.invalid issues))
  | plans {document : Json} {plans : List Plan} (hparse : Json.parse text = .ok document)
      (hversion : versionOf document = .string formatVersion) (hrecords : Holds document plans) :
      Promised text (.ok plans)

/-- A JSON value that items can be taken from, at least one unless it is an array. -/
def HasItems : Json → Prop
  | .array _ => True
  | .object members => members ≠ []
  | .string text => text ≠ ""
  | _ => False

/-- A JSON value of the shape that reading takes for granted: it is an object, and its records,
where they are looked at, have items. -/
def Shaped (document : Json) : Prop :=
  ∃ members, document = .object members ∧
    (versionOf document = .string formatVersion →
      ∀ found, Json.member? members "records" = some found → HasItems found)

/-! ### Records -/

theorem ofItems_cons_ok {item : Json} {plan : Plan} (h : ofJson item = .ok plan)
    (rest : List Json) :
    ofItems (item :: rest) = (ofItems rest).map (plan :: ·) := by
  rw [ofItems, h]
  cases ofItems rest <;> rfl

theorem ofItems_cons_bad {item : Json} {issues : List Issue} (h : ofJson item = .bad issues)
    (rest : List Json) : ofItems (item :: rest) = .error (.invalid issues) := by
  rw [ofItems, h]
  rfl

theorem ofItems_eq_ok_iff {items : List Json} {plans : List Plan} :
    ofItems items = .ok plans ↔
      List.Forall₂ (fun item plan => ofJson item = .ok plan) items plans := by
  induction items generalizing plans with
  | nil =>
      rw [List.forall₂_nil_left_iff, ofItems, Except.ok.injEq]
      exact eq_comm
  | cons item rest ih =>
      rw [List.forall₂_cons_left_iff]
      cases hitem : ofJson item with
      | bad issues => simp [ofItems_cons_bad hitem]
      | ok plan =>
          rw [ofItems_cons_ok hitem, map_eq_ok]
          simp only [ih, Decoded.ok.injEq]
          constructor
          · rintro ⟨others, hothers, rfl⟩
            exact ⟨plan, others, rfl, hothers, rfl⟩
          · rintro ⟨_, others, rfl, hothers, rfl⟩
            exact ⟨others, hothers, rfl⟩

/-- Items that are not all plans are refused for the one that does not fit. -/
theorem exists_ofItems_error {items : List Json} (h : ∀ plans, ofItems items ≠ .ok plans) :
    ∃ issues, ofItems items = .error (.invalid issues) := by
  induction items with
  | nil => exact absurd rfl (h [])
  | cons item rest ih =>
      cases hitem : ofJson item with
      | bad issues => exact ⟨issues, ofItems_cons_bad hitem rest⟩
      | ok plan =>
          have hrest : ∀ plans, ofItems rest ≠ .ok plans := by
            intro plans hplans
            exact h (plan :: plans) (by rw [ofItems_cons_ok hitem, hplans]; rfl)
          obtain ⟨issues, hissues⟩ := ih hrest
          exact ⟨issues, by rw [ofItems_cons_ok hitem, hissues]; rfl⟩

/-- A name or a character is no plan. -/
theorem ofItems_strings {texts : List String} (h : texts ≠ []) :
    ofItems (texts.map .string) = .error (.invalid [⟨.notAnObject, []⟩]) := by
  cases texts with
  | nil => exact absurd rfl h
  | cons text rest => exact ofItems_cons_bad rfl _

/-! ### Documents -/

variable {members : List (String × Json)}

theorem ofDocument_of_version
    (h : versionOf (.object members) = .string formatVersion) :
    ofDocument (.object members) =
      recordItems ((Json.member? members "records").getD (.array [])) >>= ofItems := by
  rw [versionOf] at h
  rw [ofDocument, h]
  rfl

theorem ofDocument_of_version_ne (h : versionOf (.object members) ≠ .string formatVersion) :
    ofDocument (.object members) = .error (.version (versionOf (.object members))) := by
  rw [versionOf] at h ⊢
  rw [ofDocument]
  split
  · next text hfound =>
      rw [hfound] at h ⊢
      rw [if_neg fun htext => h (congrArg Json.string htext)]
  · rfl

theorem holds_object_iff {plans : List Plan} :
    Holds (.object members) plans ↔
      ∃ items, recordsOf? members = some items ∧ ofItems items = .ok plans := by
  simp [Holds, ofItems_eq_ok_iff]

/-- Items that are looked for where records are to be are read as promised. -/
theorem promised_ofItems {text : String} {items : List Json}
    (hparse : Json.parse text = .ok (.object members))
    (hversion : versionOf (.object members) = .string formatVersion)
    (hitems : recordsOf? members = some items) : Promised text (ofItems items) := by
  by_cases hfits : ∃ plans, ofItems items = .ok plans
  · obtain ⟨plans, hplans⟩ := hfits
    rw [hplans]
    exact .plans hparse hversion (holds_object_iff.2 ⟨items, hitems, hplans⟩)
  · obtain ⟨issues, hissues⟩ := exists_ofItems_error (not_exists.1 hfits)
    rw [hissues]
    refine .invalid hparse hversion fun plans hholds => ?_
    obtain ⟨items', hitems', hplans⟩ := holds_object_iff.1 hholds
    cases hitems.symm.trans hitems'
    exact hfits ⟨plans, hplans⟩

/-- Names or characters that are taken for records are read as promised exactly if there are any. -/
theorem promised_ofItems_strings {text : String} (texts : List String)
    (hparse : Json.parse text = .ok (.object members))
    (hversion : versionOf (.object members) = .string formatVersion)
    (hrecords : recordsOf? members = none) :
    Promised text (ofItems (texts.map .string)) ↔ texts ≠ [] := by
  have hholds : ∀ plans, ¬Holds (.object members) plans := by
    intro plans hplans
    obtain ⟨items, hitems, -⟩ := holds_object_iff.1 hplans
    cases hrecords.symm.trans hitems
  constructor
  · rintro hpromised rfl
    cases hpromised with
    | plans hparse' _ hplans =>
        cases hparse.symm.trans hparse'
        exact hholds _ hplans
  · intro htexts
    rw [ofItems_strings htexts]
    exact .invalid hparse hversion hholds

/-- An object that names the version is read as promised exactly if its records, where it has any,
have items. -/
theorem promised_of_version {text : String} (hparse : Json.parse text = .ok (.object members))
    (hversion : versionOf (.object members) = .string formatVersion) :
    Promised text (ofDocument (.object members)) ↔
      ∀ found, Json.member? members "records" = some found → HasItems found := by
  rw [ofDocument_of_version hversion]
  cases hfound : Json.member? members "records" with
  | none =>
      have hitems : recordsOf? members = some [] := by rw [recordsOf?, hfound]
      exact iff_of_true (promised_ofItems hparse hversion hitems) nofun
  | some found =>
      simp only [Option.getD_some, Option.some.injEq, forall_eq']
      cases found with
      | array items =>
          have hitems : recordsOf? members = some items := by rw [recordsOf?, hfound]
          exact iff_of_true (promised_ofItems hparse hversion hitems) trivial
      | object records =>
          have hrecords : recordsOf? members = none := by rw [recordsOf?, hfound]
          have hnames := promised_ofItems_strings (records.map (·.1)) hparse hversion hrecords
          rw [List.map_map, ne_eq, List.map_eq_nil_iff] at hnames
          exact hnames
      | string records =>
          have hrecords : recordsOf? members = none := by rw [recordsOf?, hfound]
          have hletters := promised_ofItems_strings (records.toList.map String.singleton) hparse
            hversion hrecords
          rw [List.map_map, ne_eq, List.map_eq_nil_iff, String.toList_eq_nil_iff] at hletters
          exact hletters
      | null | bool | integer | float => exact iff_of_false nofun id

/-- Reading a text ends as promised if and only if the text is no JSON, or is JSON of the shape that
reading takes for granted. -/
theorem deserialize_promised_iff (text : String) :
    Promised text (deserialize text) ↔
      ∀ document, Json.parse text = .ok document → Shaped document := by
  unfold deserialize
  cases hparse : Json.parse text with
  | error cause => exact iff_of_true (.unreadable hparse) nofun
  | ok document =>
      simp only [Except.ok.injEq, forall_eq']
      cases document with
      | object members =>
          simp only [Shaped, Json.object.injEq, exists_eq_left']
          by_cases hversion : versionOf (.object members) = .string formatVersion
          · rw [promised_of_version hparse hversion]
            exact (imp_iff_right hversion).symm
          · rw [ofDocument_of_version_ne hversion]
            exact iff_of_true (.version hparse hversion) fun h => absurd h hversion
      | null | bool | integer | float | string | array =>
          refine iff_of_false nofun ?_
          rintro ⟨members, hmembers, -⟩
          cases hmembers

/-- A document that is no object, records that no items can be taken from, and a text without
characters in the place of records, which is taken for no records. -/
theorem reading_takes_shape_for_granted :
    let nullRecords := "\x7b\"v\": \"1\", \"records\": null\x7d"
    let textRecords := "\x7b\"v\": \"1\", \"records\": \"\"\x7d"
    (deserialize "[]" = .error (.notAnObject (.array [])) ∧ ¬Promised "[]" (deserialize "[]")) ∧
      (deserialize nullRecords = .error (.noRecords .null) ∧
        ¬Promised nullRecords (deserialize nullRecords)) ∧
      deserialize textRecords = .ok [] ∧ ¬Promised textRecords (deserialize textRecords) := by
  intro nullRecords textRecords
  have harray : deserialize "[]" = .error (.notAnObject (.array [])) := by cbv
  have hnull : deserialize nullRecords = .error (.noRecords .null) := by cbv
  have htext : deserialize textRecords = .ok [] := by cbv
  have hparse : Json.parse textRecords =
      .ok (.object [("v", .string "1"), ("records", .string "")]) := by
    cbv
  rw [harray, hnull, htext]
  refine ⟨⟨rfl, by rintro ⟨⟩⟩, ⟨rfl, by rintro ⟨⟩⟩, rfl, ?_⟩
  intro hpromised
  cases hpromised with
  | plans hparse' _ hholds =>
      cases hparse.symm.trans hparse'
      obtain ⟨items, hitems, -⟩ := holds_object_iff.1 hholds
      cases hitems

end Plan

end RecordMirror
