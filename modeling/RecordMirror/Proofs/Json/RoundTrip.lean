import RecordMirror.Proofs.Json.Strings
/-!
Documents of texts are read back: values that are made of texts, lists and objects with distinct
names are read from what is written for them.  There is one law for each former, and each says that
what follows the written value is left.
-/

namespace RecordMirror

namespace Json

/-- Values made of texts, lists of such values, and objects of such values with distinct names. -/
inductive OfTexts : Json → Prop
  | string (s : String) : OfTexts (.string s)
  | array {items : List Json} (hitems : ∀ item ∈ items, OfTexts item) : OfTexts (.array items)
  | object {members : List (String × Json)} (hnames : (members.map Prod.fst).Nodup)
      (hvalues : ∀ m ∈ members, OfTexts m.2) : OfTexts (.object members)

/-! ### Space -/

theorem skipSpace_of_head {c : Char} {rest : List Char} (hc : isSpace c = false) :
    skipSpace (c :: rest) = c :: rest := by
  rw [skipSpace, List.dropWhile_cons_of_neg (by simp [hc])]

theorem skipSpace_comma (rest : List Char) : skipSpace (',' :: rest) = ',' :: rest :=
  skipSpace_of_head (by decide)

theorem skipSpace_colon (rest : List Char) : skipSpace (':' :: rest) = ':' :: rest :=
  skipSpace_of_head (by decide)

theorem skipSpace_newLine (depth : Nat) {c : Char} {rest : List Char} (hc : isSpace c = false) :
    skipSpace (newLine depth ++ c :: rest) = c :: rest := by
  have hspaces : ∀ d ∈ newLine depth, isSpace d = true := by
    intro d hd
    rcases List.mem_cons.1 hd with rfl | hd
    · decide
    · rw [(List.mem_replicate.1 hd).2]
      decide
  rw [skipSpace, List.dropWhile_append_of_pos hspaces]
  exact skipSpace_of_head hc

/-! ### Members -/

theorem setMember_of_not_mem {name : String} {value : Json} {members : List (String × Json)}
    (h : name ∉ members.map Prod.fst) :
    setMember name value members = members ++ [(name, value)] := by
  induction members with
  | nil => rfl
  | cons m members ih =>
      rw [List.map_cons, List.mem_cons, not_or] at h
      rw [setMember, if_neg (fun heq => h.1 heq.symm), ih h.2, List.cons_append]

/-- An object keeps members that have distinct names as they are. -/
theorem ofMembers_of_nodup {members : List (String × Json)}
    (h : (members.map Prod.fst).Nodup) : ofMembers members = .object members := by
  have hfold : ∀ object : List (String × Json), ((object ++ members).map Prod.fst).Nodup →
      members.foldl (fun object m => setMember m.1 m.2 object) object = object ++ members := by
    clear h
    induction members with
    | nil => simp
    | cons m members ih =>
        intro object hnodup
        have hnew : m.1 ∉ object.map Prod.fst := by
          rw [List.map_append, List.nodup_append] at hnodup
          intro hmem
          exact hnodup.2.2 _ hmem m.1 (by simp) rfl
        rw [List.foldl_cons, setMember_of_not_mem hnew, ih]
        · simp
        · simpa using hnodup
  rw [ofMembers, hfold [] (by simpa using h), List.nil_append]

/-! ### Reading back -/

/-- How the written values of documents begin. -/
def beginnings : List Char :=
  ['"', '[', '\x7b']

/-- A value that is read from what is written for it, at whatever depth and with whatever after
it. -/
structure ReadBack (value : Json) : Prop where
  begins : ∀ depth, ∃ c rest, write depth value = c :: rest ∧ c ∈ beginnings
  reads : ∀ depth bound rest, (write depth value).length ≤ bound →
    readValue bound (write depth value ++ rest) = .ok (value, rest)

theorem not_space_of_beginning {c : Char} (hc : c ∈ beginnings) :
    isSpace c = false ∧ c ≠ ']' ∧ c ≠ '\ufeff' := by
  simp only [beginnings, List.mem_cons, List.not_mem_nil, or_false] at hc
  rcases hc with rfl | rfl | rfl <;> decide

theorem ReadBack.skipSpace_newLine {value : Json} (h : value.ReadBack) (depth : Nat)
    (rest : List Char) :
    skipSpace (newLine depth ++ (write depth value ++ rest)) = write depth value ++ rest := by
  obtain ⟨c, tail, hwrite, hc⟩ := h.begins depth
  rw [hwrite, List.cons_append, Json.skipSpace_newLine depth (not_space_of_beginning hc).1]

/-- A bound on the length of a text that is not empty allows one step. -/
theorem exists_bound {written : List Char} {bound : Nat} (hwritten : written ≠ [])
    (hbound : written.length ≤ bound) : ∃ b, bound = b + 1 :=
  Nat.exists_eq_add_one.2 (Nat.lt_of_lt_of_le (List.length_pos_iff.2 hwritten) hbound)

theorem readBack_string (s : String) : (string s).ReadBack := by
  constructor
  · intro depth
    exact ⟨'"', _, rfl, by decide⟩
  · intro depth bound rest hbound
    obtain ⟨b, rfl⟩ := exists_bound (List.cons_ne_nil _ _) hbound
    simp only [write, writtenString, List.cons_append, List.append_assoc, List.nil_append,
      readValue, readString_written]
    rfl

/-- Written items are read back, with the bracket after them. -/
theorem readItems_written {items : List Json} (hitems : ∀ item ∈ items, item.ReadBack)
    (depth bound : Nat) (rest : List Char) (hbound : (writeItems depth items).length ≤ bound) :
    readItems bound (writeItems depth items ++ rest) = .ok (items, rest) := by
  induction items generalizing bound with
  | nil =>
      obtain ⟨b, rfl⟩ := exists_bound (List.cons_ne_nil _ _) hbound
      have hclose : skipSpace (newLine depth ++ ']' :: rest) = ']' :: rest :=
        Json.skipSpace_newLine depth (by decide)
      simp only [writeItems, List.append_assoc, List.cons_append, List.nil_append, readItems,
        hclose]
  | cons item items ih =>
      have hitem := hitems item List.mem_cons_self
      simp only [writeItems, List.length_append, List.length_cons] at hbound
      obtain ⟨b, rfl⟩ : ∃ b, bound = b + 1 := ⟨bound - 1, by omega⟩
      have hfirst := hitem.reads (depth + 1) b (writeItems depth items ++ rest) (by omega)
      have hrest := ih (fun other hother => hitems other (List.mem_cons_of_mem _ hother)) b
        (by omega)
      simp only [writeItems, List.append_assoc, List.cons_append, readItems, skipSpace_comma,
        hitem.skipSpace_newLine, hfirst]
      simp only [bind, Except.bind, hrest, pure, Except.pure]

theorem readBack_array {items : List Json} (hitems : ∀ item ∈ items, item.ReadBack) :
    (array items).ReadBack := by
  constructor
  · intro depth
    cases items <;> exact ⟨'[', _, rfl, by decide⟩
  · intro depth bound rest hbound
    cases items with
    | nil =>
        obtain ⟨b, rfl⟩ := exists_bound (List.cons_ne_nil _ _) hbound
        have hclose : skipSpace (']' :: rest) = ']' :: rest := skipSpace_of_head (by decide)
        simp only [write, List.cons_append, List.nil_append, readValue, hclose]
    | cons first items =>
        have hitem := hitems first List.mem_cons_self
        simp only [write, List.cons_append, List.length_append, List.length_cons] at hbound
        obtain ⟨b, rfl⟩ : ∃ b, bound = b + 1 := ⟨bound - 1, by omega⟩
        have hfirst := hitem.reads (depth + 1) b (writeItems depth items ++ rest) (by omega)
        have hrest := readItems_written
          (fun other hother => hitems other (List.mem_cons_of_mem _ hother)) depth b rest (by omega)
        obtain ⟨c, tail, hwrite, hc⟩ := hitem.begins (depth + 1)
        have hspace := hitem.skipSpace_newLine (depth + 1) (writeItems depth items ++ rest)
        simp only [write, List.append_assoc, List.cons_append, readValue, hspace]
        split
        · rename_i left hleft
          rw [hwrite] at hleft
          cases hleft
          exact absurd rfl (not_space_of_beginning hc).2.1
        · simp only [hfirst, hrest, bind, Except.bind, pure, Except.pure]

/-- The name of a member comes after a new line. -/
theorem skipSpace_name (depth : Nat) (name : String) (rest : List Char) :
    skipSpace (newLine depth ++ (writtenString name ++ rest)) = writtenString name ++ rest :=
  skipSpace_newLine depth (by decide)

theorem readMember_written (name : String) {value : Json} (hvalue : value.ReadBack)
    (depth bound : Nat) (rest : List Char)
    (hbound : (writtenString name ++ ':' :: ' ' :: write depth value).length ≤ bound) :
    readMember bound (writtenString name ++ ':' :: ' ' :: (write depth value ++ rest)) =
      .ok ((name, value), rest) := by
  simp only [writtenString, List.cons_append, List.length_append, List.length_cons] at hbound
  obtain ⟨b, rfl⟩ : ∃ b, bound = b + 1 := ⟨bound - 1, by omega⟩
  have hread := hvalue.reads depth b rest (by omega)
  have hspace : skipSpace (' ' :: (write depth value ++ rest)) = write depth value ++ rest := by
    obtain ⟨c, tail, hwrite, hc⟩ := hvalue.begins depth
    rw [hwrite, List.cons_append, skipSpace, List.dropWhile_cons_of_pos (by decide)]
    exact skipSpace_of_head (not_space_of_beginning hc).1
  simp only [writtenString, List.cons_append, List.append_assoc, List.nil_append, readMember,
    readString_written, skipSpace_colon, hspace, hread, bind, Except.bind, pure, Except.pure]

theorem readMembers_written {members : List (String × Json)}
    (hmembers : ∀ m ∈ members, m.2.ReadBack) (depth bound : Nat) (rest : List Char)
    (hbound : (writeMembers depth members).length ≤ bound) :
    readMembers bound (writeMembers depth members ++ rest) = .ok (members, rest) := by
  induction members generalizing bound with
  | nil =>
      obtain ⟨b, rfl⟩ := exists_bound (List.cons_ne_nil _ _) hbound
      have hclose : skipSpace (newLine depth ++ '\x7d' :: rest) = '\x7d' :: rest :=
        Json.skipSpace_newLine depth (by decide)
      simp only [writeMembers, List.append_assoc, List.cons_append, List.nil_append, readMembers,
        hclose]
  | cons m members ih =>
      obtain ⟨name, value⟩ := m
      have hvalue : value.ReadBack := hmembers (name, value) List.mem_cons_self
      simp only [writeMembers, List.length_append, List.length_cons] at hbound
      obtain ⟨b, rfl⟩ : ∃ b, bound = b + 1 := ⟨bound - 1, by omega⟩
      have hfirst := readMember_written name hvalue (depth + 1) b
        (writeMembers depth members ++ rest)
        (by simp only [List.length_append, List.length_cons]; omega)
      have hrest := ih (fun other hother => hmembers other (List.mem_cons_of_mem _ hother)) b
        (by omega)
      simp only [writeMembers, List.append_assoc, List.cons_append, readMembers, skipSpace_comma,
        skipSpace_name, hfirst, hrest, bind, Except.bind, pure, Except.pure]

theorem readBack_object {members : List (String × Json)}
    (hnames : (members.map Prod.fst).Nodup) (hmembers : ∀ m ∈ members, m.2.ReadBack) :
    (object members).ReadBack := by
  constructor
  · intro depth
    cases members <;> exact ⟨'\x7b', _, rfl, by decide⟩
  · intro depth bound rest hbound
    cases members with
    | nil =>
        obtain ⟨b, rfl⟩ := exists_bound (List.cons_ne_nil _ _) hbound
        have hclose : skipSpace ('\x7d' :: rest) = '\x7d' :: rest := skipSpace_of_head (by decide)
        simp only [write, List.cons_append, List.nil_append, readValue, hclose]
    | cons m members =>
        obtain ⟨name, value⟩ := m
        have hvalue : value.ReadBack := hmembers (name, value) List.mem_cons_self
        simp only [write, List.cons_append, List.length_append, List.length_cons] at hbound
        obtain ⟨b, rfl⟩ : ∃ b, bound = b + 1 := ⟨bound - 1, by omega⟩
        have hfirst := readMember_written name hvalue (depth + 1) b
          (writeMembers depth members ++ rest)
          (by simp only [List.length_append, List.length_cons]; omega)
        have hrest := readMembers_written
          (fun other hother => hmembers other (List.mem_cons_of_mem _ hother)) depth b rest
          (by omega)
        simp only [write, List.append_assoc, List.cons_append, readValue, skipSpace_name]
        split
        · rename_i left hleft
          cases hleft
        · simp only [hfirst, hrest, bind, Except.bind, pure, Except.pure,
            ofMembers_of_nodup hnames]

theorem OfTexts.readBack {value : Json} (h : value.OfTexts) : value.ReadBack := by
  induction h with
  | string s => exact readBack_string s
  | array _ ih => exact readBack_array ih
  | object hnames _ ih => exact readBack_object hnames ih

/-- The text of a value of texts denotes that value. -/
theorem parse_render {value : Json} (h : value.OfTexts) : parse value.render = .ok value := by
  obtain ⟨c, rest, hwrite, hc⟩ := h.readBack.begins 0
  have hread := h.readBack.reads 0 (write 0 value).length [] (Nat.le_refl _)
  rw [List.append_nil, hwrite] at hread
  obtain ⟨hspace, -, hmark⟩ := not_space_of_beginning hc
  rw [parse, render, String.toList_ofList, hwrite, parseChars]
  · simp only [skipSpace_of_head hspace, hread]
    rfl
  · rintro tail htail
    cases htail
    exact hmark rfl

/-! ### The characters of a document -/

/-- The characters of documents: printable ASCII and line feeds. -/
def isPlainChar (c : Char) : Bool :=
  (32 ≤ c.toNat && c.toNat < 127) || c == '\n'

/-- A text of printable ASCII and line feeds. -/
def IsPlainText (text : List Char) : Prop :=
  ∀ c ∈ text, isPlainChar c = true

@[simp] theorem isPlainText_nil : IsPlainText [] := by
  intro c hc
  cases hc

@[simp] theorem isPlainText_cons {c : Char} {rest : List Char} :
    IsPlainText (c :: rest) ↔ isPlainChar c = true ∧ IsPlainText rest :=
  List.forall_mem_cons

@[simp] theorem isPlainText_append {first second : List Char} :
    IsPlainText (first ++ second) ↔ IsPlainText first ∧ IsPlainText second :=
  List.forall_mem_append

@[simp] theorem isPlainText_writtenString (s : String) : IsPlainText (writtenString s) := by
  intro c hc
  obtain ⟨hlow, hhigh⟩ := writtenString_printable hc
  simp [isPlainChar, hlow, hhigh]

@[simp] theorem isPlainText_newLine (depth : Nat) : IsPlainText (newLine depth) := by
  rw [newLine, isPlainText_cons]
  refine ⟨by decide, ?_⟩
  intro c hc
  rw [(List.mem_replicate.1 hc).2]
  decide

theorem isPlainText_writeItems {items : List Json}
    (hitems : ∀ item ∈ items, ∀ depth, IsPlainText (write depth item)) (depth : Nat) :
    IsPlainText (writeItems depth items) := by
  induction items with
  | nil => simp [writeItems, isPlainChar]
  | cons item items ih =>
      have hitem := hitems item List.mem_cons_self (depth + 1)
      have hrest := ih fun other hother => hitems other (List.mem_cons_of_mem _ hother)
      simp [writeItems, isPlainChar, hitem, hrest]

theorem isPlainText_writeMembers {members : List (String × Json)}
    (hmembers : ∀ m ∈ members, ∀ depth, IsPlainText (write depth m.2)) (depth : Nat) :
    IsPlainText (writeMembers depth members) := by
  induction members with
  | nil => simp [writeMembers, isPlainChar]
  | cons m members ih =>
      have hvalue := hmembers m List.mem_cons_self (depth + 1)
      have hrest := ih fun other hother => hmembers other (List.mem_cons_of_mem _ hother)
      simp [writeMembers, isPlainChar, hvalue, hrest]

theorem OfTexts.isPlainText {value : Json} (h : value.OfTexts) (depth : Nat) :
    IsPlainText (write depth value) := by
  induction h generalizing depth with
  | string s => exact isPlainText_writtenString s
  | @array items _ ih =>
      cases items with
      | nil => simp [write, isPlainChar]
      | cons first items =>
          have hfirst := ih first List.mem_cons_self (depth + 1)
          have hrest := isPlainText_writeItems
            (fun other hother => ih other (List.mem_cons_of_mem _ hother)) depth
          simp [write, isPlainChar, hfirst, hrest]
  | @object members _ _ ih =>
      cases members with
      | nil => simp [write, isPlainChar]
      | cons m members =>
          have hvalue := ih m List.mem_cons_self (depth + 1)
          have hrest := isPlainText_writeMembers
            (fun other hother => ih other (List.mem_cons_of_mem _ hother)) depth
          simp [write, isPlainChar, hvalue, hrest]

end Json

end RecordMirror
