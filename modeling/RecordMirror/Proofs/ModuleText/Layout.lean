import RecordMirror.Proofs.Plan.Relocation
/-!
Layout does not matter.  Two sources of the same lexemes have the same module, whatever stands
between the lexemes and whichever quotes are around their strings.  If they have none, it is for the
same causes, and what they are told differs at most in a place.
-/

namespace RecordMirror

/-- Messages that are the same up to the place, or the line, that they report. -/
inductive SameButPlace : String → String → Prop
  | same (message : String) : SameButPlace message message
  | place (before after : String) (p p' : Position) :
      SameButPlace (before ++ p.describe ++ after) (before ++ p'.describe ++ after)
  | line (before after : String) (m n : Int) :
      SameButPlace (before ++ s!"Line {m}" ++ after) (before ++ s!"Line {n}" ++ after)

theorem SameButPlace.prepend {message message' : String} (h : SameButPlace message message')
    (text : String) : SameButPlace (text ++ message) (text ++ message') := by
  cases h with
  | same => exact .same _
  | place before after p p' =>
      simpa only [String.append_assoc] using SameButPlace.place (text ++ before) after p p'
  | line before after m n =>
      simpa only [String.append_assoc] using SameButPlace.line (text ++ before) after m n

theorem sameButPlace_line (m n : Int) (after : String) :
    SameButPlace (s!"Line {m}" ++ after) (s!"Line {n}" ++ after) := by
  simpa only [String.empty_append] using SameButPlace.line "" after m n

/-! ### Faults that move to the same place -/

variable {r : Relocation}

theorem SchemaError.sameButPlace {e e' : SchemaError} (h : e.relocate r = e'.relocate r) :
    SameButPlace e.message e'.message := by
  obtain ⟨fault, p⟩ := e
  obtain ⟨fault', p'⟩ := e'
  obtain ⟨hfault, -⟩ := SchemaError.mk.inj h
  have hmessage : fault.message = fault'.message := by
    rw [← fault.message_relocate r, hfault, fault'.message_relocate r]
  simpa only [message, hmessage, String.empty_append, String.append_assoc] using
    SameButPlace.place "" (": " ++ fault'.message) p p'

theorem SourceError.sameButPlace {e e' : SourceError} (h : e.relocate r = e'.relocate r) :
    SameButPlace e.message e'.message := by
  cases e with
  | unscannable cause =>
      cases e' with
      | unscannable cause' =>
          cases h
          exact .same _
      | malformed cause' => cases h
  | malformed cause =>
      cases e' with
      | unscannable cause' => cases h
      | malformed cause' => exact SchemaError.sameButPlace (SourceError.malformed.inj h)

theorem CompileFault.sameButPlace {fault fault' : CompileFault}
    (h : fault.relocate r = fault'.relocate r) : SameButPlace fault.message fault'.message := by
  cases fault with
  | source cause =>
      cases fault' with
      | source cause' => exact SourceError.sameButPlace (CompileFault.source.inj h)
      | _ => cases h
  | unknownMode m record cause =>
      cases fault' with
      | unknownMode n record' cause' =>
          obtain ⟨-, rfl, rfl⟩ := CompileFault.unknownMode.inj h
          have hline : ∀ n, message (unknownMode n record cause) =
              s!"Line {n}" ++ (": record " ++ quoted record ++ ": " ++ cause.message) := by
            intro n
            simp only [message, String.append_assoc]
            rfl
          rw [hline, hline]
          exact sameButPlace_line m n _
      | _ => cases h
  | mirroredTwice m record mode =>
      cases fault' with
      | mirroredTwice n record' mode' =>
          obtain ⟨-, rfl, rfl⟩ := CompileFault.mirroredTwice.inj h
          have hline : ∀ n, message (mirroredTwice n record mode) =
              s!"Line {n}" ++ (": record " ++ quoted record ++ " is mirrored twice in " ++
                quoted mode.name ++ " mode") := by
            intro n
            simp only [message, String.append_assoc]
            rfl
          rw [hline, hline]
          exact sameButPlace_line m n _
      | _ => cases h
  | field cause =>
      cases fault' with
      | field cause' =>
          cases h
          exact .same _
      | _ => cases h

/-! ### Modules -/

/-- Layout does not matter.  Two sources of the same lexemes both have a module, which is the same,
or both are refused, with the same chain of causes and with messages that differ at most in the line
or the column they report. -/
theorem layout_irrelevant {source source' : String} {stream stream' : TokenStream}
    (hscan : Token.scan source = .ok stream) (hscan' : Token.scan source' = .ok stream')
    (hlexemes : stream.lexemes = stream'.lexemes) (options : PlanOptions)
    (persistentModule : Option String) :
    (∃ text, moduleOfSource options persistentModule source = .ok text ∧
        moduleOfSource options persistentModule source' = .ok text) ∨
      ∃ e e', moduleOfSource options persistentModule source = .error (.compile e) ∧
        moduleOfSource options persistentModule source' = .error (.compile e') ∧
        e.fault.chain = e'.fault.chain ∧ SameButPlace e.message e'.message := by
  have hplanned := Plan.ofSource_eq_of_lexemes options hscan hscan' hlexemes
  cases hplans : Plan.ofSource options source with
  | ok plans =>
      rw [hplans] at hplanned
      have hplans' := mapError_eq_ok.1 hplanned.symm
      exact Or.inl ⟨_, moduleOfSource_eq_ok_iff.2 ⟨plans, hplans, rfl⟩,
        moduleOfSource_eq_ok_iff.2 ⟨plans, hplans', rfl⟩⟩
  | error e =>
      rw [hplans] at hplanned
      obtain ⟨e', hplans', hmoved⟩ := mapError_eq_error.1 hplanned.symm
      obtain ⟨hlabel, hfault⟩ := CompileError.mk.inj hmoved
      refine Or.inr ⟨e, e', ?_, ?_, ?_, ?_⟩
      · simp only [moduleOfSource, hplans]
      · simp only [moduleOfSource, hplans']
      · rw [← e.fault.chain_relocate .toStart, ← hfault, e'.fault.chain_relocate]
      · simp only [CompileError.message, hlabel]
        exact (CompileFault.sameButPlace hfault.symm).prepend _

/-- A mode that is not known, in two layouts of one source. -/
theorem layout_irrelevant_frozen :
    let narrow := "@mirror('frozen') record Pen \x7b \x7d"
    let wide := "// pens\n@mirror(\"frozen\")\nrecord Pen\n\x7b\x7d"
    ∃ stream stream', Token.scan narrow = .ok stream ∧ Token.scan wide = .ok stream' ∧
      stream.lexemes = stream'.lexemes ∧
      ∃ e e', moduleOfSource ⟨.readonly, false, "pens"⟩ none narrow = .error (.compile e) ∧
        moduleOfSource ⟨.readonly, false, "pens"⟩ none wide = .error (.compile e') ∧
        e.fault.chain = e'.fault.chain ∧ SameButPlace e.message e'.message := by
  intro narrow wide
  have hlexemes : ∀ source ∈ [narrow, wide], (Token.scan source).map TokenStream.lexemes =
      .ok [(.atSign, "@"), (.identifier, "mirror"), (.leftParen, "("), (.string, "frozen"),
        (.rightParen, ")"), (.record, "record"), (.identifier, "Pen"), (.leftBrace, "\x7b"),
        (.rightBrace, "\x7d")] := by decide +kernel
  have hrefused : moduleOfSource ⟨.readonly, false, "pens"⟩ none narrow =
      .error (.compile ⟨"pens", .unknownMode 1 "Pen" ⟨"frozen"⟩⟩) := by decide +kernel
  obtain ⟨stream, hscan, hstream⟩ := map_eq_ok.1 (hlexemes narrow (by simp))
  obtain ⟨stream', hscan', hstream'⟩ := map_eq_ok.1 (hlexemes wide (by simp))
  have hsame : stream.lexemes = stream'.lexemes := hstream.trans hstream'.symm
  refine ⟨stream, stream', hscan, hscan', hsame, ?_⟩
  refine (layout_irrelevant hscan hscan' hsame _ none).resolve_left ?_
  rintro ⟨text, hmodule, -⟩
  rw [hrefused] at hmodule
  cases hmodule

end RecordMirror
