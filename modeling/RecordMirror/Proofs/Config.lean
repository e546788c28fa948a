import Mathlib.Data.List.Perm.Basic
import Mathlib.Tactic.Choose
import RecordMirror.Config
import RecordMirror.Proofs.Outcomes
/-!
Reading configurations.  A document is a configuration exactly if it is absent or a mapping of known
keys to values that suit them.  Every other document is refused by an error that names the
configuration, but for mappings with unknown keys that cannot be listed in order.
-/

namespace RecordMirror

/-! ### The order of keys -/

namespace Yaml.Value

/-- The kinds of values that have an order among themselves, and none with other values. -/
inductive OrderKind
  | number
  | text
  | bytes
  | date
  | time (zoned : Bool)
deriving DecidableEq, Repr

/-- The kind of a value.  The absent value and collections are of none. -/
def orderKind? : Value → Option OrderKind
  | null => none
  | bool _ => some .number
  | integer _ => some .number
  | float _ => some .number
  | nan _ => some .number
  | text _ => some .text
  | date .. => some .date
  | timestamp t => some (.time t.offset.isSome)
  | bytes _ => some .bytes
  | collection => none

theorem exists_number_float (x : Double) : ∃ n, (float x).number? = some n := by
  cases x <;> exact ⟨_, rfl⟩

/-- Two values have an order exactly if they are of one kind. -/
theorem order_ok_iff {a b : Value} : (∃ o, a.order b = .ok o) ↔
    ∃ kind, a.orderKind? = some kind ∧ b.orderKind? = some kind := by
  choose place hplace using exists_number_float
  cases a <;> cases b <;> simp [order, orderKind?, ↓hplace, number?]
  case timestamp.timestamp t u =>
    split
    · rename_i hzone
      exact iff_of_true ⟨_, rfl⟩ hzone.symm
    · rename_i hzone
      exact iff_of_false (fun ⟨_, h⟩ => nomatch h) (Ne.symm hzone)

end Yaml.Value

open Yaml (Value)

namespace Config

variable {label : String} {key other : Value} {keys sorted : List Value}

/-- Keys can be put in order if there is one at most, or if all are of one kind. -/
def Orderable (keys : List Value) : Prop :=
  keys.length ≤ 1 ∨ ∃ kind, ∀ key ∈ keys, key.orderKind? = some kind

/-- Inserting compares the key with the first of the ordered ones, at least. -/
theorem insertOrdered_cons_ok (h : insertOrdered key (other :: keys) = .ok sorted) :
    ∃ kind, key.orderKind? = some kind ∧ other.orderKind? = some kind := by
  obtain ⟨o, ho, -⟩ := bind_eq_ok.1 h
  exact Value.order_ok_iff.1 ⟨o, ho⟩

theorem insertOrdered_perm (h : insertOrdered key keys = .ok sorted) :
    sorted.Perm (key :: keys) := by
  induction keys generalizing sorted with
  | nil =>
      cases h
      exact List.Perm.refl _
  | cons other rest ih =>
      obtain ⟨o, -, h⟩ := bind_eq_ok.1 h
      cases o with
      | gt =>
          obtain ⟨inserted, hinserted, h⟩ := bind_eq_ok.1 h
          cases h
          exact ((ih hinserted).cons other).trans (List.Perm.swap key other rest)
      | lt =>
          cases h
          exact List.Perm.refl _
      | eq =>
          cases h
          exact List.Perm.refl _

theorem exists_insertOrdered {kind : Value.OrderKind} (hkey : key.orderKind? = some kind)
    (hkeys : ∀ other ∈ keys, other.orderKind? = some kind) :
    ∃ sorted, insertOrdered key keys = .ok sorted := by
  induction keys with
  | nil => exact ⟨_, rfl⟩
  | cons other rest ih =>
      obtain ⟨hother, hrest⟩ := List.forall_mem_cons.1 hkeys
      obtain ⟨o, ho⟩ := Value.order_ok_iff.2 ⟨kind, hkey, hother⟩
      obtain ⟨inserted, hinserted⟩ := ih hrest
      rw [insertOrdered]
      cases o with
      | gt => exact ⟨_, bind_eq_ok.2 ⟨_, ho, bind_eq_ok.2 ⟨inserted, hinserted, rfl⟩⟩⟩
      | lt => exact ⟨_, bind_eq_ok.2 ⟨_, ho, rfl⟩⟩
      | eq => exact ⟨_, bind_eq_ok.2 ⟨_, ho, rfl⟩⟩

theorem ordered_cons : ordered (key :: keys) = ordered keys >>= insertOrdered key :=
  List.foldrM_cons

theorem ordered_perm (h : ordered keys = .ok sorted) : sorted.Perm keys := by
  induction keys generalizing sorted with
  | nil =>
      cases h
      exact List.Perm.refl _
  | cons key rest ih =>
      obtain ⟨inner, hinner, hinsert⟩ := bind_eq_ok.1 (ordered_cons ▸ h)
      exact (insertOrdered_perm hinsert).trans ((ih hinner).cons key)

/-- Keys are put in order exactly if they can be.  By induction on the keys: the first one is
compared with one of the others, which are all of its kind. -/
theorem ordered_ok_iff : (∃ sorted, ordered keys = .ok sorted) ↔ Orderable keys := by
  induction keys with
  | nil => exact iff_of_true ⟨[], rfl⟩ (Or.inl (by simp))
  | cons key rest ih =>
      constructor
      · rintro ⟨sorted, h⟩
        obtain ⟨inner, hinner, hinsert⟩ := bind_eq_ok.1 (ordered_cons ▸ h)
        have hperm := ordered_perm hinner
        cases inner with
        | nil =>
            rw [List.nil_perm.1 hperm]
            exact Or.inl (by simp)
        | cons first others =>
            obtain ⟨kind, hkey, hfirst⟩ := insertOrdered_cons_ok hinsert
            have hmem : first ∈ rest := hperm.subset List.mem_cons_self
            refine Or.inr ⟨kind, List.forall_mem_cons.2 ⟨hkey, ?_⟩⟩
            rcases ih.1 ⟨_, hinner⟩ with hshort | ⟨kind', hrest⟩
            · obtain ⟨only, rfl⟩ := List.length_eq_one_iff.1
                (Nat.le_antisymm hshort (List.length_pos_of_mem hmem))
              cases List.mem_singleton.1 hmem
              simpa using hfirst
            · have hsame : kind' = kind :=
                Option.some.inj ((hrest first hmem).symm.trans hfirst)
              rwa [hsame] at hrest
      · intro horderable
        rw [ordered_cons]
        rcases horderable with hshort | ⟨kind, hkinds⟩
        · have hnone : rest = [] := by
            rw [List.length_cons] at hshort
            exact List.length_eq_zero_iff.1 (by omega)
          rw [hnone]
          exact ⟨[key], rfl⟩
        · obtain ⟨hkey, hrest⟩ := List.forall_mem_cons.1 hkinds
          obtain ⟨inner, hinner⟩ := ih.2 (Or.inr ⟨kind, hrest⟩)
          have hinnerKinds : ∀ other ∈ inner, other.orderKind? = some kind :=
            fun other hother => hrest other ((ordered_perm hinner).subset hother)
          obtain ⟨sorted, hsorted⟩ := exists_insertOrdered hkey hinnerKinds
          exact ⟨sorted, bind_eq_ok.2 ⟨inner, hinner, hsorted⟩⟩

/-- Keys can be listed if they can be put in order and none is an integer too long to be shown. -/
def Listable (keys : List Value) : Prop :=
  Orderable keys ∧ ∀ key ∈ keys, key.isTooLong = false

theorem any_isTooLong (hordered : ordered keys = .ok sorted) :
    sorted.any Value.isTooLong = false ↔ ∀ key ∈ keys, key.isTooLong = false := by
  have hperm := ordered_perm hordered
  simp [List.any_eq_false, hperm.mem_iff]

theorem describeKeys_ok_iff : (∃ names, describeKeys keys = .ok names) ↔ Listable keys := by
  constructor
  · rintro ⟨names, h⟩
    obtain ⟨sorted, hsorted, h⟩ := bind_eq_ok.1 h
    have hordered := mapError_eq_ok.1 hsorted
    split at h
    · cases h
    · rename_i hshort
      exact ⟨ordered_ok_iff.1 ⟨_, hordered⟩, (any_isTooLong hordered).1 (by simpa using hshort)⟩
  · rintro ⟨horderable, hshort⟩
    obtain ⟨sorted, hordered⟩ := ordered_ok_iff.2 horderable
    refine ⟨sorted.map Value.describe, bind_eq_ok.2 ⟨sorted, mapError_eq_ok.2 hordered, ?_⟩⟩
    rw [(any_isTooLong hordered).2 hshort]
    rfl

/-- As many keys are described as there are. -/
theorem describeKeys_length {names : List String} (h : describeKeys keys = .ok names) :
    names.length = keys.length := by
  obtain ⟨sorted, hsorted, h⟩ := bind_eq_ok.1 h
  split at h
  · cases h
  · cases h
    rw [List.length_map]
    exact (ordered_perm (mapError_eq_ok.1 hsorted)).length_eq

/-- Where keys cannot be listed, the error does not name the configuration. -/
theorem describeKeys_error {e : ConfigError} (h : describeKeys keys = .error e) :
    ∀ label fault, e ≠ .invalid label fault := by
  rintro label fault rfl
  rcases bind_eq_error.1 h with h | ⟨sorted, -, h⟩
  · obtain ⟨cause, -, hcause⟩ := mapError_eq_error.1 h
    cases hcause
  · split at h
    · cases h
    · cases h

/-! ### The entries of a mapping -/

variable {entries : List (Value × Value)} {name : String} {config : Config} {e : ConfigError}

theorem isKnown_iff : isKnown key = true ↔ ∃ name ∈ knownKeys, key = .text name := by
  cases key <;> simp [isKnown]

/-- The value of a key, if it is there. -/
def valueOf? (entries : List (Value × Value)) (name : String) : Option Value :=
  Value.lookup (.text name) entries

/-- A key has a text that is not empty. -/
def HasText (entries : List (Value × Value)) (name text : String) : Prop :=
  valueOf? entries name = some (.text text) ∧ text ≠ ""

/-- What is read as the text of a key: nothing if it is absent, else a text that is not empty. -/
def ReadsText (entries : List (Value × Value)) (name : String) : Option String → Prop
  | none => valueOf? entries name = none
  | some text => HasText entries name text

theorem text?_ok_iff {result : Option String} :
    text? label entries name = .ok result ↔ ReadsText entries name result := by
  unfold text?
  cases hvalue : Value.lookup (.text name) entries with
  | none => cases result <;> simp [ReadsText, HasText, valueOf?, hvalue]
  | some v =>
      cases v with
      | text s =>
          cases hempty : s.isEmpty with
          | true =>
              cases String.isEmpty_iff.1 hempty
              cases result with
              | none => simp [ReadsText, valueOf?, hvalue]
              | some text =>
                  refine iff_of_false (fun h => nomatch h) ?_
                  rintro ⟨hsame, hsome⟩
                  rw [valueOf?, hvalue] at hsame
                  cases hsame
                  exact hsome rfl
          | false =>
              have hsome : s ≠ "" := by simpa using hempty
              cases result with
              | none => simp [ReadsText, valueOf?, hvalue, hempty]
              | some text =>
                  simp only [hempty, Bool.false_eq_true, if_false, ReadsText, HasText, valueOf?,
                    hvalue, Except.ok.injEq, Option.some.injEq, Value.text.injEq]
                  exact ⟨fun hsame => ⟨hsame, hsame ▸ hsome⟩, And.left⟩
      | _ => cases result <;> simp [ReadsText, HasText, valueOf?, hvalue]

theorem text?_error (h : text? label entries name = .error e) :
    e = .invalid label (.notText name) := by
  unfold text? at h
  split at h
  · cases h
  · split at h
    · cases h
      rfl
    · cases h
  · cases h
    rfl

/-- What is read as the boolean of a key: nothing if it is absent, else a boolean. -/
def ReadsBoolean (entries : List (Value × Value)) (name : String) : Option Bool → Prop
  | none => valueOf? entries name = none
  | some b => valueOf? entries name = some (.bool b)

theorem boolean?_ok_iff {result : Option Bool} :
    boolean? label entries name = .ok result ↔ ReadsBoolean entries name result := by
  unfold boolean?
  cases hvalue : Value.lookup (.text name) entries with
  | none => cases result <;> simp [ReadsBoolean, valueOf?, hvalue]
  | some v => cases v <;> cases result <;> simp [ReadsBoolean, valueOf?, hvalue]

theorem boolean?_error (h : boolean? label entries name = .error e) :
    e = .invalid label (.notABoolean name) := by
  unfold boolean? at h
  split at h
  · cases h
  · cases h
  · cases h
    rfl

/-- The entries of a mapping make up a configuration.  All keys are known, the value of each suits
it, and what has no key is as in the configuration that sets nothing. -/
structure Configures (entries : List (Value × Value)) (config : Config) : Prop where
  known : ∀ entry ∈ entries, ∃ name ∈ knownKeys, entry.1 = .text name
  buildDirectory :
    (valueOf? entries buildDirectoryKey = none ∧ config.buildDirectory = defaults.buildDirectory) ∨
      HasText entries buildDirectoryKey config.buildDirectory
  persistentModule :
    (valueOf? entries persistentModuleKey = none ∧
        config.persistentModule = defaults.persistentModule) ∨
      ∃ name, HasText entries persistentModuleKey name ∧ config.persistentModule = some name
  defaultMode :
    (valueOf? entries defaultModeKey = none ∧ config.defaultMode = defaults.defaultMode) ∨
      ∃ text, HasText entries defaultModeKey text ∧ Mode.parse text = .ok config.defaultMode
  strictReferences :
    (valueOf? entries strictReferencesKey = none ∧
        config.strictReferences = defaults.strictReferences) ∨
      valueOf? entries strictReferencesKey = some (.bool config.strictReferences)

/-- The keys of a mapping that no configuration has. -/
def unknownKeys (entries : List (Value × Value)) : List Value :=
  (entries.map (·.1)).filter (!isKnown ·)

theorem unknownKeys_eq_nil_iff :
    unknownKeys entries = [] ↔ ∀ entry ∈ entries, ∃ name ∈ knownKeys, entry.1 = .text name := by
  simp only [unknownKeys, List.filter_eq_nil_iff, List.forall_mem_map, Bool.not_eq_true',
    Bool.not_eq_false, isKnown_iff]

/-- A text or else the default is read exactly if it is the one or the other. -/
theorem exists_text?_iff (label : String) {default value : String} :
    (∃ result, text? label entries name = .ok result ∧ result.getD default = value) ↔
      (valueOf? entries name = none ∧ value = default) ∨ HasText entries name value := by
  simp only [text?_ok_iff]
  constructor
  · rintro ⟨_ | text, hreads, rfl⟩
    · exact Or.inl ⟨hreads, rfl⟩
    · exact Or.inr hreads
  · rintro (⟨hnone, rfl⟩ | htext)
    · exact ⟨none, hnone, rfl⟩
    · exact ⟨some value, htext, rfl⟩

theorem exists_boolean?_iff (label : String) {default value : Bool} :
    (∃ result, boolean? label entries name = .ok result ∧ result.getD default = value) ↔
      (valueOf? entries name = none ∧ value = default) ∨
        valueOf? entries name = some (.bool value) := by
  simp only [boolean?_ok_iff]
  constructor
  · rintro ⟨_ | b, hreads, rfl⟩
    · exact Or.inl ⟨hreads, rfl⟩
    · exact Or.inr hreads
  · rintro (⟨hnone, rfl⟩ | hvalue)
    · exact ⟨none, hnone, rfl⟩
    · exact ⟨some value, hvalue, rfl⟩

/-- A mode or else the default is read exactly if it is the one or the other. -/
theorem exists_mode_iff (label : String) {default mode : Mode} :
    (∃ result, text? label entries name = .ok result ∧ Mode.resolve result default = .ok mode) ↔
      (valueOf? entries name = none ∧ mode = default) ∨
        ∃ text, HasText entries name text ∧ Mode.parse text = .ok mode := by
  simp only [text?_ok_iff]
  constructor
  · rintro ⟨_ | text, hreads, hmode⟩
    · cases hmode
      exact Or.inl ⟨hreads, rfl⟩
    · exact Or.inr ⟨text, hreads, hmode⟩
  · rintro (⟨hnone, rfl⟩ | ⟨text, htext, hmode⟩)
    · exact ⟨none, hnone, rfl⟩
    · exact ⟨some text, htext, hmode⟩

theorem readsText_iff {result : Option String} : ReadsText entries name result ↔
    (valueOf? entries name = none ∧ result = none) ∨
      ∃ text, HasText entries name text ∧ result = some text := by
  cases result <;> simp [ReadsText]

theorem describeKeys_eq_nil {names : List String} (h : describeKeys keys = .ok names) :
    names.isEmpty = true ↔ keys = [] := by
  rw [List.isEmpty_iff, ← List.length_eq_zero_iff, ← List.length_eq_zero_iff,
    describeKeys_length h]

/-- The entries of a mapping are read as a configuration exactly if they make it up. -/
theorem ofEntries_ok_iff : ofEntries label entries = .ok config ↔ Configures entries config := by
  constructor
  · intro h
    obtain ⟨unknown, hunknown, h⟩ := bind_eq_ok.1 h
    split at h
    · cases h
    rename_i hnone
    obtain ⟨buildDirectory, hbuild, h⟩ := bind_eq_ok.1 h
    obtain ⟨persistentModule, hpersistent, h⟩ := bind_eq_ok.1 h
    obtain ⟨modeText, htext, h⟩ := bind_eq_ok.1 h
    obtain ⟨mode, hmode, h⟩ := bind_eq_ok.1 h
    obtain ⟨strict, hstrict, h⟩ := bind_eq_ok.1 h
    cases h
    have hempty : unknown.isEmpty = true := by simpa using hnone
    exact {
      known := unknownKeys_eq_nil_iff.1 ((describeKeys_eq_nil hunknown).1 hempty)
      buildDirectory := (exists_text?_iff label).1 ⟨buildDirectory, hbuild, rfl⟩
      persistentModule := readsText_iff.1 (text?_ok_iff.1 hpersistent)
      defaultMode := (exists_mode_iff label).1 ⟨modeText, htext, mapError_eq_ok.1 hmode⟩
      strictReferences := (exists_boolean?_iff label).1 ⟨strict, hstrict, rfl⟩ }
  · rintro ⟨hknown, hbuild, hpersistent, hmode, hstrict⟩
    have hunknown : describeKeys (unknownKeys entries) = .ok [] := by
      rw [unknownKeys_eq_nil_iff.2 hknown]
      rfl
    obtain ⟨buildDirectory, hbuild, hdirectory⟩ := (exists_text?_iff label).2 hbuild
    have hpersistent : text? label entries persistentModuleKey = .ok config.persistentModule :=
      text?_ok_iff.2 (readsText_iff.2 hpersistent)
    obtain ⟨modeText, htext, hmode⟩ := (exists_mode_iff label).2 hmode
    obtain ⟨strict, hstrict, hflag⟩ := (exists_boolean?_iff label).2 hstrict
    refine bind_eq_ok.2 ⟨[], hunknown, bind_eq_ok.2 ⟨_, hbuild, bind_eq_ok.2 ⟨_, hpersistent,
      bind_eq_ok.2 ⟨_, htext, bind_eq_ok.2 ⟨_, mapError_eq_ok.2 hmode,
        bind_eq_ok.2 ⟨_, hstrict, ?_⟩⟩⟩⟩⟩⟩
    rw [hdirectory, hflag]
    rfl

/-- The entries of a mapping with keys that can be listed are refused by an error that names the
configuration, if they are refused. -/
theorem ofEntries_invalid (hlistable : Listable (unknownKeys entries))
    (h : ofEntries label entries = .error e) : ∃ fault, e = .invalid label fault := by
  rcases bind_eq_error.1 h with h | ⟨unknown, -, h⟩
  · obtain ⟨names, hnames⟩ := describeKeys_ok_iff.2 hlistable
    rw [show describeKeys (unknownKeys entries) = .error e from h] at hnames
    cases hnames
  split at h
  · cases h
    exact ⟨_, rfl⟩
  rcases bind_eq_error.1 h with h | ⟨buildDirectory, -, h⟩
  · exact ⟨_, text?_error h⟩
  rcases bind_eq_error.1 h with h | ⟨persistentModule, -, h⟩
  · exact ⟨_, text?_error h⟩
  rcases bind_eq_error.1 h with h | ⟨modeText, -, h⟩
  · exact ⟨_, text?_error h⟩
  rcases bind_eq_error.1 h with h | ⟨mode, -, h⟩
  · obtain ⟨cause, -, rfl⟩ := mapError_eq_error.1 h
    exact ⟨_, rfl⟩
  rcases bind_eq_error.1 h with h | ⟨strict, -, h⟩
  · exact ⟨_, boolean?_error h⟩
  · cases h

/-- The entries of a mapping end in a configuration or in an error that names it, exactly if the
unknown keys can be listed. -/
theorem ofEntries_listable_iff :
    (∀ e, ofEntries label entries = .error e → ∃ fault, e = .invalid label fault) ↔
      Listable (unknownKeys entries) := by
  constructor
  · intro hrefused
    by_contra hunlisted
    rcases error_or_ok (describeKeys (unknownKeys entries)) with ⟨e, he⟩ | hok
    · obtain ⟨fault, rfl⟩ := hrefused e (bind_eq_error.2 (Or.inl he))
      exact describeKeys_error he label fault rfl
    · exact hunlisted (describeKeys_ok_iff.1 hok)
  · exact fun hlistable e h => ofEntries_invalid hlistable h

/-! ### Documents and texts -/

/-- A document is a configuration: the absent value sets nothing, a mapping what its entries say. -/
def Accepts : Yaml.Document → Config → Prop
  | .value v, config => v = .null ∧ config = defaults
  | .mapping entries, config => Configures entries config

/-- A document whose unknown keys, if it is a mapping that has some, can be listed. -/
def KeysListable : Yaml.Document → Prop
  | .value _ => True
  | .mapping entries => Listable (unknownKeys entries)

theorem ofDocument_ok_iff {document : Yaml.Document} :
    ofDocument label document = .ok config ↔ Accepts document config := by
  cases document with
  | mapping entries => exact ofEntries_ok_iff
  | value v => cases v <;> simp [ofDocument, Accepts, eq_comm]

theorem ofDocument_listable_iff {document : Yaml.Document} :
    (∀ e, ofDocument label document = .error e → ∃ fault, e = .invalid label fault) ↔
      KeysListable document := by
  cases document with
  | mapping entries => exact ofEntries_listable_iff
  | value v =>
      refine iff_of_true ?_ trivial
      intro e h
      cases v with
      | null => cases h
      | _ =>
          cases h
          exact ⟨_, rfl⟩

/-- Reading configurations is total but for keys that cannot be listed.  A text that is no YAML is
refused by an error that names the configuration.  A document is read as the configuration it is;
and one that is none is refused by an error that names the configuration, exactly if its unknown
keys can be listed. -/
theorem reading_total_iff (label : String) :
    (∀ text, Yaml.Document.load text = .error .malformed →
        parse label text = .error (.invalid label .yaml)) ∧
      ∀ document,
        (∀ text, Yaml.Document.load text = .ok document →
          parse label text = ofDocument label document) ∧
        (∀ config, ofDocument label document = .ok config ↔ Accepts document config) ∧
        ((∀ e, ofDocument label document = .error e → ∃ fault, e = .invalid label fault) ↔
          KeysListable document) := by
  refine ⟨?_, fun document => ⟨?_, fun config => ofDocument_ok_iff, ofDocument_listable_iff⟩⟩
  · intro text hload
    simp only [parse, hload]
  · intro text hload
    simp only [parse, hload]

/-- A mode with layout around it and a flag, a text that is no YAML, and unknown keys of two types
that have an order. -/
theorem reading_total_iff_studio :
    parse "studio" "default-mode: ' observable '\nstrict-references: on" =
        .ok { defaultMode := .observable, strictReferences := true } ∧
      parse "studio" "build-directory: [" = .error (.invalid "studio" .yaml) ∧
      ∃ fault, parse "studio" "2: x\non: y" = .error (.invalid "studio" fault) := by
  obtain ⟨hmalformed, hdocument⟩ := reading_total_iff "studio"
  refine ⟨?_, hmalformed _ (by decide +kernel), ?_⟩
  · have hload : Yaml.Document.load "default-mode: ' observable '\nstrict-references: on" =
        .ok (.mapping [(.text "default-mode", .text " observable "),
          (.text "strict-references", .bool true)]) := by decide +kernel
    obtain ⟨hparse, hok, -⟩ := hdocument (.mapping [(.text "default-mode", .text " observable "),
      (.text "strict-references", .bool true)])
    refine (hparse _ hload).trans ((hok _).2 ?_)
    exact {
      known := by decide
      buildDirectory := Or.inl ⟨by decide, rfl⟩
      persistentModule := Or.inl ⟨by decide, rfl⟩
      defaultMode := Or.inr ⟨" observable ", ⟨by decide, by decide⟩, by decide⟩
      strictReferences := Or.inr (by decide) }
  · let document : Yaml.Document :=
      .mapping [(.integer 2, .text "x"), (.bool true, .text "y")]
    have hload : Yaml.Document.load "2: x\non: y" = .ok document := by decide +kernel
    have hlistable : KeysListable document :=
      ⟨Or.inr ⟨.number, by decide⟩, by decide +kernel⟩
    obtain ⟨hparse, hok, hrefused⟩ := hdocument document
    rw [hparse _ hload]
    rcases error_or_ok (ofDocument "studio" document) with ⟨e, he⟩ | ⟨config, hconfig⟩
    · obtain ⟨fault, rfl⟩ := hrefused.2 hlistable e he
      exact ⟨fault, he⟩
    · have hknown := ((hok config).1 hconfig).known
      exact absurd hknown (by decide)

/-- A number and a text as unknown keys: they have no order, and the error does not name the
configuration. -/
theorem reading_not_total :
    let text := "1: x\na: y"
    Yaml.Document.load text = .ok (.mapping [(.integer 1, .text "x"), (.text "a", .text "y")]) ∧
      parse "studio" text = .error (.unorderedKeys .unlike) ∧
      ¬ ∃ fault, parse "studio" text = .error (.invalid "studio" fault) := by
  intro text
  have hload : Yaml.Document.load text =
      .ok (.mapping [(.integer 1, .text "x"), (.text "a", .text "y")]) := by decide +kernel
  have hparse : parse "studio" text = .error (.unorderedKeys .unlike) := by decide +kernel
  refine ⟨hload, hparse, ?_⟩
  rintro ⟨fault, hinvalid⟩
  rw [hparse] at hinvalid
  cases hinvalid

end Config

end RecordMirror
