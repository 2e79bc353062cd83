import Mathlib
import Descent.Proofs.Lexing.Places

/-! Skipped kinds are left out, and nothing else changes.

What is skipped has no say in what is found where. A lexer that leaves out tokens as it comes to
them, and knows its place by the line and by where the line began, does the same as one that keeps
all of them to the end.
-/

set_option autoImplicit false

namespace Descent

namespace Place

theorem after_concat (place : Place) (text : List Char) (c : Char) :
    place.after (text ++ [c]) = (place.after text).next c := List.foldl_concat ..

theorem after_line (place : Place) (text : List Char) :
    (place.after text).line = place.line + text.count '\n' := by
  induction text using List.reverseRecOn with
  | nil => rfl
  | append_singleton text c ih =>
    rw [after_concat, List.count_append, List.count_singleton, ← Nat.add_assoc, ← ih]
    unfold next
    split
    · rename_i same
      rw [if_pos (beq_iff_eq.mpr same)]
    · rename_i other
      rw [if_neg (by simpa using other)]
      rfl

theorem after_column (place : Place) (text : List Char) :
    (place.after text).column =
      if '\n' ∈ text then (text.rtakeWhile (· != '\n')).length + 1
      else place.column + text.length := by
  induction text using List.reverseRecOn with
  | nil => rfl
  | append_singleton text c ih =>
    rw [after_concat, List.rtakeWhile_concat]
    unfold next
    by_cases same : c = '\n'
    · simp [same]
    · have other : ¬ '\n' = c := fun equal => same equal.symm
      simp only [same, if_false, ih, List.mem_append, List.mem_singleton, other, or_false,
        bne_iff_ne, ne_eq, not_false_eq_true, if_true, List.length_append, List.length_singleton]
      split <;> rfl

end Place

namespace Lexer

/-- Cut a text in one go: tokens of skipped kinds are left out as they come, and the column is
counted from the offset at which the line began. -/
def sweep (find : Nat → Option Find) (source : Array Char) (skip : List String)
    (position line lineStart : Nat) (tokens : List Token) : Except TokenError (List Token) :=
  if inside : position < source.size then
    let column := position - lineStart + 1
    match find position with
    | none => .error (.unexpected source[position] ⟨line, column⟩)
    | some ⟨none, _⟩ => .error .noKind
    | some ⟨some kind, stop⟩ =>
      if empty : stop ≤ position then .error (.emptyLexeme kind ⟨line, column⟩)
      else
        let lexeme := (source.extract position stop).toList
        let token : Token := ⟨String.ofList lexeme, kind, line, column⟩
        let breaks := lexeme.count '\n'
        let lineStart :=
          if 0 < breaks then position + (lexeme.rdropWhile (· != '\n')).length else lineStart
        sweep find source skip stop (line + breaks) lineStart
          (if skip.contains kind then tokens else tokens ++ [token])
  else .ok tokens
termination_by source.size - position
decreasing_by omega

variable {source : Array Char} {position lineStart : Nat}

/-- The line of a place, and the offset at which it began, tell the place. -/
theorem after_lexeme (line : Nat) (text : List Char) (ahead : lineStart ≤ position) :
    let breaks := text.count '\n'
    let begun := if 0 < breaks then position + (text.rdropWhile (· != '\n')).length else lineStart
    begun ≤ position + text.length ∧
      Place.after ⟨line, position - lineStart + 1⟩ text =
        ⟨line + breaks, position + text.length - begun + 1⟩ := by
  intro breaks begun
  have halves : (text.rdropWhile (· != '\n')).length + (text.rtakeWhile (· != '\n')).length =
      text.length := by
    rw [← List.length_append, List.rdropWhile_append_rtakeWhile]
  have lines := Place.after_line ⟨line, position - lineStart + 1⟩ text
  have columns := Place.after_column ⟨line, position - lineStart + 1⟩ text
  have moved : begun ≤ position + text.length ∧ position + text.length - begun + 1 =
      if '\n' ∈ text then (text.rtakeWhile (· != '\n')).length + 1
      else position - lineStart + 1 + text.length := by
    have broken : 0 < breaks ↔ '\n' ∈ text := List.count_pos_iff
    by_cases inside : '\n' ∈ text
    · have start : begun = position + (text.rdropWhile (· != '\n')).length :=
        if_pos (broken.mpr inside)
      rw [if_pos inside]
      omega
    · have start : begun = lineStart := if_neg (inside ∘ broken.mp)
      rw [if_neg inside]
      omega
  rw [moved.2, ← columns, ← lines]
  exact ⟨moved.1, rfl⟩

/-- It makes no difference whether tokens are left out at once or at the end. -/
theorem sweep_eq (lexer : Lexer) (inside : position ≤ source.size) (ahead : lineStart ≤ position)
    (line : Nat) (tokens : List Token) :
    sweep (lexer.findAt source) source lexer.skip position line lineStart tokens =
      (cut (lexer.findAt source) source position ⟨line, position - lineStart + 1⟩).map fun rest =>
        tokens ++ rest.filter fun token => !lexer.skip.contains token.kind := by
  induction left : source.size - position using Nat.strongRecOn
    generalizing position line lineStart tokens with
  | ind left ih =>
    rw [sweep, cut]
    by_cases more : position < source.size
    · rw [dif_pos more, dif_pos more]
      cases found : lexer.findAt source position with
      | none => rfl
      | some find =>
        obtain ⟨_ | kind, stop⟩ := find
        · rfl
        · dsimp only
          by_cases empty : stop ≤ position
          · rw [dif_pos empty, dif_pos empty]
            rfl
          · rw [dif_neg empty, dif_neg empty]
            have within : stop ≤ source.size := (findAt_within inside found).2
            have length : (source.extract position stop).toList.length = stop - position := by
              rw [Array.length_toList, Array.size_extract]
              omega
            obtain ⟨begun, place⟩ :=
              after_lexeme line (source.extract position stop).toList ahead
            have reached : position + (source.extract position stop).toList.length = stop := by omega
            rw [reached] at begun place
            -- Both go on from the same place, whether the lexeme is kept or not.
            rw [ih _ (by omega) within begun _ _ rfl, place]
            cases cut (lexer.findAt source) source stop _ with
            | error => rfl
            | ok rest =>
              refine congrArg Except.ok ?_
              dsimp only
              rw [List.filter_cons]
              cases lexer.skip.contains kind <;> simp
    · rw [dif_neg more, dif_neg more]
      exact congrArg Except.ok (List.append_nil tokens).symm

theorem tokenize_eq_sweep (lexer : Lexer) (text : String) :
    lexer.tokenize text = sweep (lexer.findAt text.toList.toArray) text.toList.toArray lexer.skip
      0 1 0 [] := by
  have whole := sweep_eq lexer (Nat.zero_le text.toList.toArray.size) (Nat.le_refl 0) 1 []
  exact whole.symm

theorem tokenize_many {lexer : Lexer} {many : List String} (more : lexer.skip ⊆ many)
    (text : String) :
    (∃ error, lexer.tokenize text = .error error ∧
        Lexer.tokenize { lexer with skip := many } text = .error error) ∨
      ∃ tokens, lexer.tokenize text = .ok tokens ∧
        Lexer.tokenize { lexer with skip := many } text =
          .ok (tokens.filter fun token => !many.contains token.kind) := by
  have same : Lexer.scan { lexer with skip := many } text = lexer.scan text := rfl
  unfold tokenize
  rw [same]
  cases lexer.scan text with
  | error error => exact .inl ⟨error, rfl, rfl⟩
  | ok tokens =>
    refine .inr ⟨_, rfl, congrArg Except.ok ?_⟩
    rw [List.filter_filter]
    refine List.filter_congr fun token _ => ?_
    by_cases skipped : token.kind ∈ many
    · simp [skipped]
    · have kept : token.kind ∉ lexer.skip := fun member => skipped (more member)
      simp [skipped, kept]

theorem create_skip [CharNames] (patterns : List (String × String)) (skip other : List String) :
    create patterns other =
      (create patterns skip).map fun lexer => { lexer with skip := other } := by
  unfold create
  split
  · rfl
  · cases checkKinds [] (patterns.map Prod.fst) with
    | error => rfl
    | ok => cases NamedPattern.ofString (combine patterns) <;> rfl

/-- For patterns that make a lexer, whether to skip more is a matter of what is shown. -/
theorem create_skips [CharNames] (patterns : List (String × String)) {few many : List String}
    (more : few ⊆ many) :
    (∃ error, create patterns few = .error error ∧ create patterns many = .error error) ∨
      ∃ lexer lexer', create patterns few = .ok lexer ∧ create patterns many = .ok lexer' ∧
        ∀ text,
          (∃ error, lexer.tokenize text = .error error ∧ lexer'.tokenize text = .error error) ∨
            ∃ tokens, lexer.tokenize text = .ok tokens ∧
              lexer'.tokenize text =
                .ok (tokens.filter fun token => !many.contains token.kind) := by
  cases made : create patterns few with
  | error error =>
    refine .inl ⟨error, rfl, ?_⟩
    rw [create_skip patterns few, made]
    rfl
  | ok lexer =>
    have skip : lexer.skip = few := by
      have same := create_skip patterns few few
      rw [made] at same
      exact congrArg Lexer.skip (Except.ok.inj same)
    refine .inr ⟨lexer, { lexer with skip := many }, rfl, ?_, tokenize_many (skip.symm ▸ more)⟩
    rw [create_skip patterns few, made]
    rfl

/-- A lexer that skips more fails alike, and finds the same but for the kinds that it skips. Either
cuts the text in one go. -/
theorem tokenize_skips (lexer : Lexer) {many : List String} (more : lexer.skip ⊆ many)
    (text : String) :
    lexer.tokenize text =
        sweep (lexer.findAt text.toList.toArray) text.toList.toArray lexer.skip 0 1 0 [] ∧
      Lexer.tokenize { lexer with skip := many } text =
        sweep (lexer.findAt text.toList.toArray) text.toList.toArray many 0 1 0 [] ∧
      ((∃ error, lexer.tokenize text = .error error ∧
          Lexer.tokenize { lexer with skip := many } text = .error error) ∨
        ∃ tokens, lexer.tokenize text = .ok tokens ∧
          Lexer.tokenize { lexer with skip := many } text =
            .ok (tokens.filter fun token => !many.contains token.kind)) :=
  ⟨tokenize_eq_sweep lexer text, tokenize_eq_sweep { lexer with skip := many } text,
    tokenize_many more text⟩

def blanks : Lexer := ⟨words.patterns, [], words.combined⟩

/-- The blanks are found and left out; a character that is not expected is reported either way. -/
theorem tokenize_skips_words :
    @create .ascii words.patterns blanks.skip = .ok blanks ∧
      @create .ascii words.patterns words.skip = .ok words ∧ blanks.skip ⊆ words.skip ∧
      (∃ tokens, blanks.tokenize "if x\n y" = .ok tokens ∧
        words.tokenize "if x\n y" =
          .ok (tokens.filter fun token => !words.skip.contains token.kind)) ∧
      ∃ error, blanks.tokenize "if\n ?" = .error error ∧ words.tokenize "if\n ?" = .error error ∧
        error.message? = some "2:2: Unexpected character '?'" := by
  have cut : (words.tokenize "if x\n y").isOk = true := by cbv
  have stuck : words.tokenize "if\n ?" = .error (.unexpected '?' ⟨2, 2⟩) := by cbv
  have made' : @create .ascii words.patterns words.skip = .ok words := by cbv
  have made : @create .ascii words.patterns blanks.skip = .ok blanks := by
    rw [@create_skip .ascii words.patterns words.skip, made']
    rfl
  have more : blanks.skip ⊆ words.skip := List.nil_subset _
  refine ⟨made, made', more, ?_, ?_⟩
  · obtain ⟨_, _, ⟨error, _, broken⟩ | found⟩ := tokenize_skips blanks more "if x\n y"
    · rw [show Lexer.mk blanks.patterns words.skip blanks.combined = words from rfl] at broken
      rw [broken] at cut
      cases cut
    · exact found
  · obtain ⟨_, _, ⟨error, broken, broken'⟩ | ⟨tokens, _, found⟩⟩ := tokenize_skips blanks more "if\n ?"
    · cases stuck.symm.trans broken'
      exact ⟨_, broken, broken', by decide⟩
    · cases stuck.symm.trans found

end Lexer

end Descent
