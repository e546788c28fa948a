import RecordMirror.Proofs.Outcomes
import RecordMirror.Proofs.TypeExpr.Reading
/-!
Malformed maps.  A map that is written out, but with other arguments than a name and a type, is
refused as such wherever a name may stand, and no other text is refused so.
-/

namespace RecordMirror

variable {stop : Position} {bound : Nat} {tokens left : List Token}
variable {arguments : List (Sigma TypeDerivation)}

/-- The lexemes of type arguments, with commas between them. -/
def argumentLexemes : List (Sigma TypeDerivation) → List Lexeme
  | [] => []
  | first :: others => first.2.lexemes ++ TypeExpr.furtherLexemes others

/-- A map as it is written, whatever its arguments. -/
def mapLexemes (arguments : List (Sigma TypeDerivation)) : List Lexeme :=
  Wrapper.around .map (argumentLexemes arguments)

/-- Arguments that no map has: there are not two of them, or the first is more than a name. -/
def MalformedArguments (arguments : List (Sigma TypeDerivation)) : Prop :=
  arguments.length ≠ 2 ∨ ∃ first ∈ arguments.head?,
    ∀ scalar : ScalarName, first.2.lexemes ≠ [(.identifier, scalar.text)]

/-- Somewhere in the lexemes a map is written that has such arguments. -/
def HasMalformedMap (lexemes : List Lexeme) : Prop :=
  ∃ before arguments after, lexemes = before ++ (mapLexemes arguments ++ after) ∧
    MalformedArguments arguments

theorem HasMalformedMap.prepend {lexemes : List Lexeme} (h : HasMalformedMap lexemes)
    (before : List Lexeme) : HasMalformedMap (before ++ lexemes) := by
  obtain ⟨middle, arguments, after, rfl, hmalformed⟩ := h
  exact ⟨before ++ middle, arguments, after, by rw [List.append_assoc], hmalformed⟩

theorem HasMalformedMap.of_suffix (h : HasMalformedMap (left.map Token.lexeme))
    (hleft : left <:+ tokens) : HasMalformedMap (tokens.map Token.lexeme) := by
  obtain ⟨before, rfl⟩ := hleft
  rw [List.map_append]
  exact h.prepend _

namespace TypeExpr

/-! ### What a map makes of its arguments -/

/-- A type is more than a name exactly if it is no scalar. -/
theorem not_isScalar_iff (d : Sigma TypeDerivation) :
    d.2.type.isScalar = false ↔
      ∀ scalar : ScalarName, d.2.lexemes ≠ [(.identifier, scalar.text)] := by
  constructor
  · intro htype scalar hlexemes
    have hname : d = ⟨false, .base (.name scalar)⟩ := TypeDerivation.lexemes_injective hlexemes
    rw [hname, show (⟨false, .base (.name scalar)⟩ : Sigma TypeDerivation).2.type = scalar.type
      from rfl, scalar.type_isScalar] at htype
    cases htype
  · intro hname
    cases htype : d.2.type.isScalar with
    | false => rfl
    | true =>
        obtain ⟨scalar, rfl⟩ := exists_scalar_of_isScalar d htype
        exact absurd rfl (hname scalar)

/-- A map refuses its arguments exactly if they are malformed. -/
theorem apply_map_error_iff :
    (∃ fault, Wrapper.map.apply (arguments.map fun d => d.2.type) = .error fault ∧
      fault.isMapFault = true) ↔ MalformedArguments arguments := by
  match arguments with
  | [] => exact ⟨fun _ => Or.inl (by decide), fun _ => ⟨_, rfl, rfl⟩⟩
  | [_] => exact ⟨fun _ => Or.inl (by simp), fun _ => ⟨_, rfl, rfl⟩⟩
  | _ :: _ :: _ :: _ => exact ⟨fun _ => Or.inl (by simp), fun _ => ⟨_, rfl, rfl⟩⟩
  | [key, value] =>
      have hmalformed : MalformedArguments [key, value] ↔ key.2.type.isScalar = false := by
        simp [MalformedArguments, not_isScalar_iff]
      rw [hmalformed]
      cases hkey : key.2.type.isScalar with
      | true => simp [Wrapper.apply, hkey]
      | false => simp [Wrapper.apply, hkey, TypeFault.isMapFault]

/-- No other wrapper says that a map is malformed. -/
theorem eq_map_of_apply_error {wrapper : Wrapper} {types : List TypeExpr} {fault : TypeFault}
    (h : wrapper.apply types = .error fault) (hfault : fault.isMapFault = true) :
    wrapper = .map := by
  unfold Wrapper.apply at h
  split at h
  · rfl
  · rfl
  · cases h
  · cases h
  · split at h
    · cases h
      cases hfault
    · cases h
  · cases h
    cases hfault

/-! ### A map fault has its reason in the tokens -/

/-- Reading a type ends in a fault that says that a map is malformed. -/
def EndsInMapFault (stop : Position) (bound : Nat) (tokens : List Token) : Prop :=
  ∃ error, read stop bound tokens = .error error ∧ error.1.isMapFault = true

theorem readMark_not_mapFault {base : TypeExpr} {error : TypeFault × Nat}
    (h : readMark stop base tokens = .error error) : error.1.isMapFault = false := by
  unfold readMark at h
  split at h
  · split at h
    · cases h
      rfl
    · split at h
      · cases h
        rfl
      · cases h
  · cases h

theorem readWrapped_mapFault {wrapper : Wrapper} {types : List TypeExpr} {error : TypeFault × Nat}
    (h : readWrapped stop wrapper types tokens = .error error)
    (herror : error.1.isMapFault = true) :
    wrapper = .map ∧ ∃ fault, Wrapper.map.apply types = .error fault ∧
      fault.isMapFault = true := by
  unfold readWrapped at h
  split at h
  · rename_i fault happly
    cases h
    cases eq_map_of_apply_error happly herror
    exact ⟨rfl, fault, happly, herror⟩
  · rw [readMark_not_mapFault h] at herror
    cases herror

/-- The ways in which reading a type ends in a map fault. -/
theorem read_mapFault {error : TypeFault × Nat} (h : read stop bound tokens = .error error)
    (herror : error.1.isMapFault = true) :
    ∃ depth name position text place inside, bound = depth + 1 ∧
      tokens = ⟨.identifier, name, position⟩ :: ⟨.leftAngle, text, place⟩ :: inside ∧
      ((∃ closing at_ after, inside = ⟨.rightAngle, closing, at_⟩ :: after ∧
          Wrapper.ofName? name = some .map) ∨
        read stop depth inside = .error error ∨
        ∃ first middle, read stop depth inside = .ok (first, middle) ∧
          (readArguments stop depth middle = .error error ∨
            ∃ others after, readArguments stop depth middle = .ok (others, after) ∧
              Wrapper.ofName? name = some .map ∧
              ∃ fault, Wrapper.map.apply (first :: others) = .error fault ∧
                fault.isMapFault = true)) := by
  cases bound with
  | zero =>
      cases h
      cases herror
  | succ depth =>
      unfold TypeExpr.read at h
      split at h
      · rename_i name position rest
        cases hwrapper : Wrapper.ofName? name with
        | none =>
            rw [hwrapper] at h
            rw [readMark_not_mapFault h] at herror
            cases herror
        | some wrapper =>
            rw [hwrapper] at h
            simp only at h
            split at h
            · obtain ⟨rfl, -⟩ := readWrapped_mapFault h herror
              exact ⟨depth, name, position, _, _, _, rfl, rfl, Or.inl ⟨_, _, _, rfl, hwrapper⟩⟩
            · rename_i text place inside _
              refine ⟨depth, name, position, text, place, inside, rfl, rfl, Or.inr ?_⟩
              cases hfirst : read stop depth inside with
              | error e =>
                  rw [hfirst] at h
                  cases h
                  exact Or.inl rfl
              | ok parts =>
                  obtain ⟨first, middle⟩ := parts
                  rw [hfirst] at h
                  simp only at h
                  refine Or.inr ⟨first, middle, rfl, ?_⟩
                  cases hothers : readArguments stop depth middle with
                  | error e =>
                      rw [hothers] at h
                      cases h
                      exact Or.inl rfl
                  | ok parts =>
                      obtain ⟨others, after⟩ := parts
                      rw [hothers] at h
                      obtain ⟨rfl, happly⟩ := readWrapped_mapFault h herror
                      exact Or.inr ⟨others, after, rfl, hwrapper, happly⟩
            · cases h
              cases herror
      · cases h
        cases herror

/-- The ways in which reading further arguments ends in a map fault. -/
theorem readArguments_mapFault {error : TypeFault × Nat}
    (h : readArguments stop bound tokens = .error error) (herror : error.1.isMapFault = true) :
    ∃ depth text position rest, bound = depth + 1 ∧
      tokens = ⟨.comma, text, position⟩ :: rest ∧
      (read stop depth rest = .error error ∨
        ∃ argument middle, read stop depth rest = .ok (argument, middle) ∧
          readArguments stop depth middle = .error error) := by
  cases bound with
  | zero =>
      cases h
      cases herror
  | succ depth =>
      unfold readArguments at h
      split at h
      · rename_i text position rest
        refine ⟨depth, text, position, rest, rfl, rfl, ?_⟩
        cases hargument : read stop depth rest with
        | error e =>
            rw [hargument] at h
            cases h
            exact Or.inl rfl
        | ok parts =>
            obtain ⟨argument, middle⟩ := parts
            rw [hargument] at h
            simp only at h
            refine Or.inr ⟨argument, middle, rfl, ?_⟩
            cases hothers : readArguments stop depth middle with
            | error e =>
                rw [hothers] at h
                cases h
                rfl
            | ok parts =>
                rw [hothers] at h
                cases h
      · cases h
      · cases h
        cases herror

/-- The tokens of a map whose arguments have been read, and what comes after them. -/
theorem hasMalformedMap_of_arguments {name text : String} {position place : Position}
    {inside after : List Token}
    (hname : Wrapper.ofName? name = some .map) (hopening : text = "<")
    (hinside : inside.map Token.lexeme =
      argumentLexemes arguments ++ (.rightAngle, ">") :: after.map Token.lexeme)
    (harguments : MalformedArguments arguments) :
    HasMalformedMap ((⟨.identifier, name, position⟩ :: ⟨.leftAngle, text, place⟩ ::
      inside : List Token).map Token.lexeme) := by
  have hwritten : Wrapper.map.name = name := by simpa using List.find?_some hname
  refine ⟨[], arguments, after.map Token.lexeme, ?_, harguments⟩
  rw [List.nil_append, mapLexemes, Wrapper.around_append, ← hinside, hwritten, hopening]
  rfl

/-- By induction on the bound: a map fault comes from a map that has just been closed, or from
further inside. -/
theorem read_mapFault_sound_aux (stop : Position) (bound : Nat) :
    (∀ {tokens : List Token} {error : TypeFault × Nat}, SpelledTokens tokens →
        read stop bound tokens = .error error → error.1.isMapFault = true →
        HasMalformedMap (tokens.map Token.lexeme)) ∧
      ∀ {tokens : List Token} {error : TypeFault × Nat}, SpelledTokens tokens →
        readArguments stop bound tokens = .error error → error.1.isMapFault = true →
        HasMalformedMap (tokens.map Token.lexeme) := by
  induction bound with
  | zero =>
      constructor
      · intro tokens error _ h herror
        cases h
        cases herror
      · intro tokens error _ h herror
        cases h
        cases herror
  | succ depth ih =>
      obtain ⟨ihType, ihArguments⟩ := ih
      constructor
      · intro tokens error htokens h herror
        obtain ⟨_, name, position, text, place, inside, hbound, rfl, hcases⟩ :=
          read_mapFault h herror
        cases hbound
        have hrest := htokens.of_suffix (List.suffix_cons _ _)
        have hopening : text = "<" := hrest ⟨.leftAngle, text, place⟩ List.mem_cons_self
        have hinside : SpelledTokens inside := hrest.of_suffix (List.suffix_cons _ _)
        have hsuffix : inside <:+ ⟨.identifier, name, position⟩ ::
            ⟨.leftAngle, text, place⟩ :: inside :=
          (List.suffix_cons _ _).trans (List.suffix_cons _ _)
        rcases hcases with ⟨closing, at_, after, rfl, hname⟩ | hfirst |
          ⟨first, middle, hfirst, hothers | ⟨others, after, hothers, hname, happly⟩⟩
        · have hclosing : closing = ">" :=
            hinside ⟨.rightAngle, closing, at_⟩ List.mem_cons_self
          have hempty : MalformedArguments [] := Or.inl (by decide)
          exact hasMalformedMap_of_arguments hname hopening (by rw [hclosing]; rfl) hempty
        · exact (ihType hinside hfirst herror).of_suffix hsuffix
        · have hmiddle : middle <:+ inside := read_suffix hfirst
          exact (ihArguments (hinside.of_suffix hmiddle) hothers herror).of_suffix
            (hmiddle.trans hsuffix)
        · obtain ⟨d, rfl, hd, -⟩ := read_sound hinside hfirst
          obtain ⟨ds, rfl, hds⟩ :=
            readArguments_sound (hinside.of_suffix (read_suffix hfirst)) hothers
          have hwritten : inside.map Token.lexeme =
              argumentLexemes (d :: ds) ++ (.rightAngle, ">") :: after.map Token.lexeme := by
            rw [hd, hds, argumentLexemes, List.append_assoc]
          exact hasMalformedMap_of_arguments hname hopening hwritten (apply_map_error_iff.1 happly)
      · intro tokens error htokens h herror
        obtain ⟨_, text, position, rest, hbound, rfl, hcases⟩ := readArguments_mapFault h herror
        cases hbound
        have hrest : SpelledTokens rest := htokens.of_suffix (List.suffix_cons _ _)
        rcases hcases with hargument | ⟨argument, middle, hargument, hothers⟩
        · exact (ihType hrest hargument herror).of_suffix (List.suffix_cons _ _)
        · have hmiddle : middle <:+ rest := read_suffix hargument
          exact (ihArguments (hrest.of_suffix hmiddle) hothers herror).of_suffix
            (hmiddle.trans (List.suffix_cons _ _))

/-! ### A malformed map is found wherever a name may stand -/

theorem EndsInMapFault.head (h : EndsInMapFault stop bound tokens) :
    ∃ depth name position rest, bound = depth + 1 ∧
      tokens = ⟨.identifier, name, position⟩ :: rest := by
  obtain ⟨error, hread, herror⟩ := h
  obtain ⟨depth, name, position, text, place, inside, rfl, rfl, -⟩ := read_mapFault hread herror
  exact ⟨depth, name, position, _, rfl, rfl⟩

/-- A map fault in the first argument of a wrapper. -/
theorem EndsInMapFault.first {wrapper : Wrapper} {text : String} {p q : Position}
    (h : EndsInMapFault stop bound tokens) :
    EndsInMapFault stop (bound + 1)
      (⟨.identifier, wrapper.name, p⟩ :: ⟨.leftAngle, text, q⟩ :: tokens) := by
  obtain ⟨_, name, position, rest, -, rfl⟩ := h.head
  obtain ⟨error, hread, herror⟩ := h
  refine ⟨error, ?_, herror⟩
  rw [TypeExpr.read]
  simp only [Wrapper.ofName?_name, hread]

/-- A map fault in the second argument of a wrapper whose first argument is a name. -/
theorem EndsInMapFault.second {wrapper : Wrapper} {key : ScalarName} {text comma : String}
    {p q r s : Position} (h : EndsInMapFault stop bound tokens) :
    EndsInMapFault stop (bound + 2) (⟨.identifier, wrapper.name, p⟩ :: ⟨.leftAngle, text, q⟩ ::
      ⟨.identifier, key.text, r⟩ :: ⟨.comma, comma, s⟩ :: tokens) := by
  obtain ⟨error, hread, herror⟩ := h
  have hkey : read stop (bound + 1) (⟨.identifier, key.text, r⟩ :: ⟨.comma, comma, s⟩ :: tokens) =
      .ok (key.type, ⟨.comma, comma, s⟩ :: tokens) := by
    rw [read_name]
    rfl
  have hothers : readArguments stop (bound + 1) (⟨.comma, comma, s⟩ :: tokens) = .error error := by
    rw [readArguments]
    simp only [hread]
  refine ⟨error, ?_, herror⟩
  rw [TypeExpr.read]
  simp only [Wrapper.ofName?_name, hkey, hothers]

theorem not_beginsMarked_further (ds : List (Sigma TypeDerivation)) (rest : List Lexeme) :
    ¬ beginsMarked (furtherLexemes ds ++ (.rightAngle, ">") :: rest) := by
  cases ds with
  | nil => exact not_beginsMarked_cons (by decide)
  | cons => exact not_beginsMarked_cons (by decide)

/-- Arguments are read up to the closing bracket, by induction on the arguments. -/
theorem readArguments_append (ds : List (Sigma TypeDerivation)) {after : List Lexeme}
    (hlexemes : tokens.map Token.lexeme = furtherLexemes ds ++ (.rightAngle, ">") :: after)
    (hbound : tokens.length ≤ bound) :
    ∃ left, readArguments stop bound tokens = .ok (ds.map fun d => d.2.type, left) := by
  induction ds generalizing bound tokens with
  | nil =>
      obtain ⟨r, left, rfl, -⟩ := exists_token_of_lexeme hlexemes
      obtain ⟨depth, rfl⟩ : ∃ depth, bound = depth + 1 := ⟨bound - 1, by simp at hbound; omega⟩
      exact ⟨left, readArguments_close⟩
  | cons d ds ih =>
      rw [furtherLexemes, List.flatMap_cons, List.append_assoc, List.cons_append] at hlexemes
      obtain ⟨p, rest, rfl, hrest⟩ := exists_token_of_lexeme hlexemes
      obtain ⟨inner, middle, rfl, hinner, hmiddle⟩ := List.map_eq_append_iff.1 hrest
      simp only [List.length_cons, List.length_append] at hbound
      obtain ⟨depth, rfl⟩ : ∃ depth, bound = depth + 1 := ⟨bound - 1, by omega⟩
      have hmark : ¬ beginsMarked (middle.map Token.lexeme) := by
        rw [hmiddle]
        exact not_beginsMarked_further ds after
      obtain ⟨left, hleft⟩ := ih hmiddle (show middle.length ≤ depth by omega)
      exact ⟨left, readArguments_comma (d.2.read_append hinner (by omega) hmark) hleft⟩

/-- A malformed map is read up to its closing bracket and refused there. -/
theorem endsInMapFault_of_mapLexemes {after : List Lexeme}
    (harguments : MalformedArguments arguments)
    (hlexemes : tokens.map Token.lexeme = mapLexemes arguments ++ after)
    (hbound : tokens.length ≤ bound) : EndsInMapFault stop bound tokens := by
  obtain ⟨fault, happly, hfault⟩ := apply_map_error_iff.2 harguments
  rw [mapLexemes, Wrapper.around_append] at hlexemes
  obtain ⟨p, rest, rfl, hrest⟩ := exists_token_of_lexeme hlexemes
  obtain ⟨q, inside, rfl, hinside⟩ := exists_token_of_lexeme hrest
  simp only [List.length_cons] at hbound
  obtain ⟨depth, rfl⟩ : ∃ depth, bound = depth + 1 := ⟨bound - 1, by omega⟩
  have hrefused : ∀ left, readWrapped stop .map (arguments.map fun d => d.2.type) left =
      .error (faultAt stop left fault) := by
    intro left
    rw [readWrapped, happly]
  cases arguments with
  | nil =>
      obtain ⟨r, left, rfl, -⟩ := exists_token_of_lexeme hinside
      refine ⟨faultAt stop left fault, ?_, hfault⟩
      rw [← hrefused left, TypeExpr.read]
      rfl
  | cons d ds =>
      rw [argumentLexemes, List.append_assoc] at hinside
      obtain ⟨inner, middle, rfl, hinner, hmiddle⟩ := List.map_eq_append_iff.1 hinside
      rw [List.length_append] at hbound
      have hmark : ¬ beginsMarked (middle.map Token.lexeme) := by
        rw [hmiddle]
        exact not_beginsMarked_further ds after
      have hfirst : read stop depth (inner ++ middle) = .ok (d.2.type, middle) :=
        d.2.read_append hinner (by omega) hmark
      obtain ⟨left, hothers⟩ :=
        readArguments_append ds hmiddle (show middle.length ≤ depth by omega)
      obtain ⟨name, rest, hhead⟩ := d.2.lexemes_eq_cons
      rw [hhead] at hinner
      obtain ⟨at_, tail, rfl, -⟩ := exists_token_of_lexeme hinner
      refine ⟨faultAt stop left fault, ?_, hfault⟩
      rw [← hrefused left]
      exact read_wrapper hfirst hothers

/-- A name before a last lexeme that is none. -/
theorem exists_name_before {lexemes before after : List Lexeme} {last : Lexeme} {name : String}
    (hlast : last.1 ≠ .identifier)
    (h : lexemes ++ [last] = before ++ (.identifier, name) :: after) :
    ∃ middle, lexemes = before ++ (.identifier, name) :: middle := by
  rcases List.append_eq_append_iff.1 h with ⟨extra, -, hextra⟩ | ⟨extra, rfl, hextra⟩
  · cases extra with
    | nil =>
        cases hextra
        exact absurd rfl hlast
    | cons => simp at hextra
  · cases extra with
    | nil =>
        cases hextra
        exact absurd rfl hlast
    | cons first middle =>
        cases hextra
        exact ⟨middle, rfl⟩

/-- The name of a scalar that stands in a wrapper stands between the brackets. -/
theorem exists_name_inside {wrapper : Wrapper} {scalar : ScalarName}
    {inside before after : List Lexeme}
    (h : wrapper.around inside = before ++ (.identifier, scalar.text) :: after) :
    ∃ within middle, before = (.identifier, wrapper.name) :: (.leftAngle, "<") :: within ∧
      inside = within ++ (.identifier, scalar.text) :: middle := by
  match before with
  | [] =>
      have happend : wrapper.around inside ++ [] = (.identifier, scalar.text) :: after := by
        rw [List.append_nil, h, List.nil_append]
      exact absurd happend Wrapper.around_ne_name
  | [_] => simp [Wrapper.around] at h
  | first :: second :: within =>
      simp only [Wrapper.around, List.cons_append, List.cons.injEq] at h
      obtain ⟨rfl, rfl, hinside⟩ := h
      obtain ⟨middle, rfl⟩ := exists_name_before (by decide) hinside
      exact ⟨within, middle, rfl, rfl⟩

theorem endsInMapFault_in_first {wrapper : Wrapper} {inside : List Lexeme}
    (hlexemes : tokens.map Token.lexeme =
      (.identifier, wrapper.name) :: (.leftAngle, "<") :: inside)
    (hbound : tokens.length ≤ bound)
    (hinside : ∀ {depth : Nat} {inner : List Token}, inner.map Token.lexeme = inside →
      inner.length ≤ depth → EndsInMapFault stop depth inner) :
    EndsInMapFault stop bound tokens := by
  obtain ⟨p, rest, rfl, hrest⟩ := exists_token_of_lexeme hlexemes
  obtain ⟨q, inner, rfl, hinner⟩ := exists_token_of_lexeme hrest
  simp only [List.length_cons] at hbound
  obtain ⟨depth, rfl⟩ : ∃ depth, bound = depth + 1 := ⟨bound - 1, by omega⟩
  exact (hinside hinner (show inner.length ≤ depth by omega)).first

theorem endsInMapFault_in_second {wrapper : Wrapper} {key : ScalarName} {inside : List Lexeme}
    (hlexemes : tokens.map Token.lexeme = (.identifier, wrapper.name) :: (.leftAngle, "<") ::
      (.identifier, key.text) :: (.comma, ",") :: inside)
    (hbound : tokens.length ≤ bound)
    (hinside : ∀ {depth : Nat} {inner : List Token}, inner.map Token.lexeme = inside →
      inner.length ≤ depth → EndsInMapFault stop depth inner) :
    EndsInMapFault stop bound tokens := by
  obtain ⟨p, _, rfl, hopening⟩ := exists_token_of_lexeme hlexemes
  obtain ⟨q, _, rfl, hkey⟩ := exists_token_of_lexeme hopening
  obtain ⟨r, _, rfl, hcomma⟩ := exists_token_of_lexeme hkey
  obtain ⟨s, inner, rfl, hinner⟩ := exists_token_of_lexeme hcomma
  simp only [List.length_cons] at hbound
  obtain ⟨depth, rfl⟩ : ∃ depth, bound = depth + 2 := ⟨bound - 2, by omega⟩
  exact (hinside hinner (show inner.length ≤ depth by omega)).second

end TypeExpr

open TypeExpr

mutual

/-- A malformed map in the place of a name of a base. -/
theorem BaseDerivation.endsInMapFault {stop : Position} {bound : Nat} {tokens : List Token}
    {arguments : List (Sigma TypeDerivation)} {o : Bool} (base : BaseDerivation o)
    {scalar : ScalarName} {before after rest : List Lexeme}
    (harguments : MalformedArguments arguments)
    (hname : base.lexemes = before ++ (.identifier, scalar.text) :: rest)
    (hlexemes : tokens.map Token.lexeme = before ++ (mapLexemes arguments ++ after))
    (hbound : tokens.length ≤ bound) : EndsInMapFault stop bound tokens := by
  match o, base with
  | _, .name name =>
      cases before with
      | nil => exact endsInMapFault_of_mapLexemes harguments hlexemes hbound
      | cons => simp [BaseDerivation.lexemes] at hname
  | _, .list argument =>
      obtain ⟨within, middle, rfl, hargument⟩ := exists_name_inside hname
      exact endsInMapFault_in_first hlexemes hbound fun hinner hdepth =>
        argument.endsInMapFault harguments hargument hinner hdepth
  | _, .set argument =>
      obtain ⟨within, middle, rfl, hargument⟩ := exists_name_inside hname
      exact endsInMapFault_in_first hlexemes hbound fun hinner hdepth =>
        argument.endsInMapFault harguments hargument hinner hdepth
  | _, .optional argument =>
      obtain ⟨within, middle, rfl, hargument⟩ := exists_name_inside hname
      exact endsInMapFault_in_first hlexemes hbound fun hinner hdepth =>
        argument.endsInMapFault harguments hargument hinner hdepth
  | _, .map key value =>
      obtain ⟨within, middle, rfl, hinside⟩ := exists_name_inside hname
      match within with
      | [] =>
          exact endsInMapFault_in_first hlexemes hbound fun hinner hdepth =>
            endsInMapFault_of_mapLexemes harguments hinner hdepth
      | [_] => simp at hinside
      | _ :: _ :: within =>
          simp only [List.cons_append, List.cons.injEq] at hinside
          obtain ⟨rfl, rfl, hvalue⟩ := hinside
          exact endsInMapFault_in_second hlexemes hbound fun hinner hdepth =>
            value.endsInMapFault harguments hvalue hinner hdepth

/-- A malformed map in the place of a name of a type. -/
theorem TypeDerivation.endsInMapFault {stop : Position} {bound : Nat} {tokens : List Token}
    {arguments : List (Sigma TypeDerivation)} {o : Bool} (d : TypeDerivation o)
    {scalar : ScalarName} {before after rest : List Lexeme}
    (harguments : MalformedArguments arguments)
    (hname : d.lexemes = before ++ (.identifier, scalar.text) :: rest)
    (hlexemes : tokens.map Token.lexeme = before ++ (mapLexemes arguments ++ after))
    (hbound : tokens.length ≤ bound) : EndsInMapFault stop bound tokens := by
  match o, d with
  | _, .base base => exact base.endsInMapFault harguments hname hlexemes hbound
  | _, .marked base =>
      obtain ⟨middle, hbase⟩ := exists_name_before (by decide) hname
      exact base.endsInMapFault harguments hbase hlexemes hbound

end

/-! ### Texts -/

/-- A text is refused for a map exactly if reading its tokens ends in a map fault. -/
theorem TypeExpr.parse_mapFault_iff {text : String} :
    (∃ error, parse text = .error error ∧ error.isMapFault = true) ↔
      ∃ stream, Token.scan text = .ok stream ∧
        EndsInMapFault stream.stop stream.tokens.length stream.tokens := by
  unfold parse
  constructor
  · rintro ⟨error, h, herror⟩
    cases hscan : Token.scan text with
    | error cause =>
        rw [hscan] at h
        cases h
        cases herror
    | ok stream =>
        rw [hscan] at h
        refine ⟨stream, rfl, ?_⟩
        simp only at h
        split at h
        · cases h
          cases herror
        split at h
        · rename_i fault column hread
          cases h
          exact ⟨(fault, column), hread, herror⟩
        · cases h
        · cases h
          cases herror
  · rintro ⟨stream, hscan, hfault⟩
    obtain ⟨_, _, _, _, -, htokens⟩ := hfault.head
    obtain ⟨⟨fault, column⟩, hread, herror⟩ := hfault
    have hnonempty : stream.tokens.isEmpty = false := by rw [htokens]; rfl
    refine ⟨.malformed text fault column, ?_, herror⟩
    simp [hscan, hnonempty, hread]

/-- The fault of a malformed map means a malformed map.  Where it is raised, the tokens contain a
map that is written out with other arguments than a name and a type; and where the tokens contain
such a map, and would be read if it were a name, it is raised. -/
theorem TypeExpr.mapFault_exact (text : String) :
    (∀ error, parse text = .error error → error.isMapFault = true →
        ∃ stream, Token.scan text = .ok stream ∧ HasMalformedMap stream.lexemes) ∧
      ∀ stream before arguments after, Token.scan text = .ok stream →
        stream.lexemes = before ++ (mapLexemes arguments ++ after) →
        MalformedArguments arguments →
        ∀ (name : ScalarName) (other : String) (replaced : TokenStream) (e : TypeExpr),
          Token.scan other = .ok replaced →
          replaced.lexemes = before ++ (.identifier, name.text) :: after →
          parse other = .ok e →
          ∃ error, parse text = .error error ∧ error.isMapFault = true := by
  constructor
  · intro error h herror
    obtain ⟨stream, hscan, fault, hread, hfault⟩ := parse_mapFault_iff.1 ⟨error, h, herror⟩
    exact ⟨stream, hscan,
      (read_mapFault_sound_aux _ _).1 (spelledTokens_of_scan hscan) hread hfault⟩
  · intro stream before arguments after hscan hlexemes harguments name other replaced e hother
      hreplaced hread
    obtain ⟨_, hsame, d, hd, -⟩ := parse_eq_ok_iff.1 hread
    rw [hother] at hsame
    cases hsame
    rw [hreplaced] at hd
    exact parse_mapFault_iff.2 ⟨stream, hscan,
      d.2.endsInMapFault harguments hd hlexemes (Nat.le_refl _)⟩

/-- A map with an optional key, itself optional, as the element of a list. -/
theorem TypeExpr.mapFault_exact_nested :
    parse "List<Pair?>" = .ok (.list (.optional (.reference "Pair"))) ∧
      ∃ stream error, Token.scan "List<Map<Int?, Bool>?>" = .ok stream ∧
        parse "List<Map<Int?, Bool>?>" = .error error ∧ error.isMapFault = true ∧
        HasMalformedMap stream.lexemes := by
  have hlexemes : (Token.scan "List<Map<Int?, Bool>?>").map TokenStream.lexemes =
      .ok [(.identifier, "List"), (.leftAngle, "<"), (.identifier, "Map"), (.leftAngle, "<"),
        (.identifier, "Int"), (.question, "?"), (.comma, ","), (.identifier, "Bool"),
        (.rightAngle, ">"), (.question, "?"), (.rightAngle, ">")] := by decide +kernel
  have hreplaced : (Token.scan "List<Pair?>").map TokenStream.lexemes =
      .ok [(.identifier, "List"), (.leftAngle, "<"), (.identifier, "Pair"), (.question, "?"),
        (.rightAngle, ">")] := by decide +kernel
  have hread : parse "List<Pair?>" = .ok (.list (.optional (.reference "Pair"))) := by
    decide +kernel
  obtain ⟨stream, hscan, hstream⟩ := map_eq_ok.1 hlexemes
  obtain ⟨replaced, hother, hnamed⟩ := map_eq_ok.1 hreplaced
  let pair : ScalarName := .record ⟨"Pair", by decide, by decide⟩
  let arguments : List (Sigma TypeDerivation) :=
    [⟨true, .marked (.name (.primitive .int))⟩, ⟨false, .base (.name (.primitive .bool))⟩]
  have harguments : MalformedArguments arguments :=
    apply_map_error_iff.1 ⟨.mapKey, rfl, rfl⟩
  obtain ⟨error, herror, hfault⟩ := (mapFault_exact _).2 stream
    [(.identifier, "List"), (.leftAngle, "<")] arguments [(.question, "?"), (.rightAngle, ">")]
    hscan hstream harguments pair _ replaced _ hother hnamed hread
  obtain ⟨_, hsame, hmap⟩ := (mapFault_exact _).1 error herror hfault
  rw [hscan] at hsame
  cases hsame
  exact ⟨hread, stream, error, hscan, herror, hfault, hmap⟩

end RecordMirror
