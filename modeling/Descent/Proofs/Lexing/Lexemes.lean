import Mathlib
import Descent.Proofs.Lexing.Matches

/-! Lexing loses nothing, and knows where it is.

The lexemes that a lexer finds, those that are skipped too, follow one another from the beginning
of the text up to its end, or up to where the patterns match nothing. The place of a lexeme is
carried along from one to the next, and is the place that the whole text before it gives.
-/

set_option autoImplicit false

namespace Descent

namespace Place

/-- The place behind a text. Its line is one more than the line breaks, and its column one more
than the characters behind the last of them. -/
def behind (text : List Char) : Place where
  line := 1 + text.count '\n'
  column := 1 + (text.rtakeWhile (· != '\n')).length

theorem behind_concat (text : List Char) (c : Char) :
    behind (text ++ [c]) = (behind text).next c := by
  unfold behind next
  rw [List.count_append, List.rtakeWhile_concat]
  by_cases break_ : c = '\n'
  · simp [break_, Nat.add_assoc]
  · simp [break_, Nat.add_assoc]

theorem after_behind (before text : List Char) :
    (behind before).after text = behind (before ++ text) := by
  induction text generalizing before with
  | nil => rw [List.append_nil]; rfl
  | cons c rest ih =>
    have first := ih (before ++ [c])
    rw [behind_concat, List.append_assoc] at first
    exact first

end Place

namespace Lexer

variable {lexer : Lexer} {text : List Char} {offset stop : Nat} {token : Token}
  {tokens : List Token}

def spelling (tokens : List Token) : List Char := tokens.flatMap (·.lexeme.toList)

/-- The token is what the lexer finds in the text at an offset, with the place of the offset. -/
structure Cuts (lexer : Lexer) (text : List Char) (offset : Nat) (token : Token) : Prop where
  found : lexer.findAt text.toArray offset = some ⟨some token.kind, offset + token.lexeme.length⟩
  listed : ∃ entry ∈ lexer.patterns, entry.1 = token.kind
  filled : token.lexeme ≠ ""
  spelled : token.lexeme.toList <+: text.drop offset
  line : token.line = (Place.behind (text.take offset)).line
  column : token.column = (Place.behind (text.take offset)).column

/-- The combined pattern matches nothing at an offset, or nothing but the empty text. -/
inductive Fails (lexer : Lexer) (text : List Char) (offset : Nat) : TokenError → Prop where
  | unexpected {c : Char} (there : text[offset]? = some c)
      (none : lexer.findAt text.toArray offset = none) :
      Fails lexer text offset (.unexpected c (.behind (text.take offset)))
  | empty {kind : String} (inside : offset < text.length)
      (found : lexer.findAt text.toArray offset = some ⟨some kind, offset⟩) :
      Fails lexer text offset (.emptyLexeme kind (.behind (text.take offset)))

/-- Lexemes from an offset on, each of which begins where the one before it ends. -/
inductive Lexemes (lexer : Lexer) (text : List Char) : Nat → List Token → Nat → Prop where
  | nil {offset : Nat} : Lexemes lexer text offset [] offset
  | cons {offset stop : Nat} {token : Token} {rest : List Token} (cut : lexer.Cuts text offset token)
      (more : Lexemes lexer text (offset + token.lexeme.length) rest stop) :
      Lexemes lexer text offset (token :: rest) stop

theorem Lexemes.spelled (lexemes : lexer.Lexemes text offset tokens stop) :
    text.take offset ++ spelling tokens = text.take stop := by
  induction lexemes with
  | nil => exact List.append_nil _
  | @cons offset stop token rest cut more ih =>
    have first : token.lexeme.toList = (text.drop offset).take token.lexeme.length := by
      rw [← String.length_toList]
      exact List.prefix_iff_eq_take.mp cut.spelled
    rw [← ih, List.take_add, ← first, List.append_assoc]
    rfl

theorem Lexemes.cuts (lexemes : lexer.Lexemes text offset tokens stop) {earlier later : List Token}
    (split : tokens = earlier ++ token :: later) :
    lexer.Cuts text (offset + (spelling earlier).length) token := by
  induction lexemes generalizing earlier with
  | nil => simp at split
  | @cons offset stop first rest cut more ih =>
    cases earlier with
    | nil =>
      cases split
      exact cut
    | cons other earlier =>
      obtain ⟨rfl, same⟩ := List.cons.inj split
      have deeper := ih same
      rw [Nat.add_assoc, ← String.length_toList, ← List.length_append] at deeper
      exact deeper

theorem cuts_of_found {kind : String} (inside : offset < text.length)
    (found : lexer.findAt text.toArray offset = some ⟨some kind, stop⟩)
    (listed : ∃ entry ∈ lexer.patterns, some kind = some entry.1) (ahead : offset < stop) :
    let place := Place.behind (text.take offset)
    let lexeme := (text.toArray.extract offset stop).toList
    stop = offset + (String.ofList lexeme).length ∧
      lexer.Cuts text offset ⟨String.ofList lexeme, kind, place.line, place.column⟩ ∧
      place.after lexeme = .behind (text.take stop) := by
  intro place lexeme
  have within : stop ≤ text.length := (findAt_within inside.le found).2
  have extracted : lexeme = (text.drop offset).take (stop - offset) :=
    Array.toList_extract.trans List.extract_eq_take_drop
  have length : (String.ofList lexeme).length = stop - offset := by
    rw [String.length_ofList, extracted, List.length_take, List.length_drop]
    omega
  have reached : stop = offset + (String.ofList lexeme).length := by omega
  refine ⟨reached, ⟨?_, ?_, ?_, ?_, rfl, rfl⟩, ?_⟩
  · rw [← reached]
    exact found
  · obtain ⟨entry, member, same⟩ := listed
    exact ⟨entry, member, (Option.some.inj same).symm⟩
  · intro empty
    have none : lexeme = [] := String.ofList_eq_empty_iff.mp empty
    rw [String.length_ofList, none, List.length_nil] at length
    omega
  · rw [String.toList_ofList, extracted]
    exact List.take_prefix _ _
  · rw [Place.after_behind, extracted, ← List.take_add]
    congr
    omega

/-- Cutting goes on until the text ends or the lexer fails. -/
theorem cut_lexemes (named : ∀ offset < text.length, ∀ found ∈ lexer.findAt text.toArray offset,
      ∃ entry ∈ lexer.patterns, found.kind = some entry.1) (inside : offset ≤ text.length) :
    ∃ tokens stop, lexer.Lexemes text offset tokens stop ∧ stop ≤ text.length ∧
      (stop = text.length ∧
          cut (lexer.findAt text.toArray) text.toArray offset (.behind (text.take offset)) =
            .ok tokens ∨
        ∃ error, lexer.Fails text stop error ∧
          cut (lexer.findAt text.toArray) text.toArray offset (.behind (text.take offset)) =
            .error error) := by
  -- Every lexeme leaves less of the text.
  induction left : text.length - offset using Nat.strongRecOn generalizing offset with
  | ind left ih =>
    rw [cut]
    split
    · rename_i more
      have more : offset < text.length := more
      split
      · rename_i none
        exact ⟨[], offset, .nil, inside, .inr ⟨_, .unexpected (by simp) none, rfl⟩⟩
      · rename_i found
        obtain ⟨_, _, same⟩ := named offset more _ found
        cases same
      · rename_i kind stop found
        by_cases empty : stop ≤ offset
        · rw [dif_pos empty]
          cases Nat.le_antisymm empty (findAt_within inside found).1
          exact ⟨[], offset, .nil, inside, .inr ⟨_, .empty more found, rfl⟩⟩
        · rw [dif_neg empty]
          have ahead : offset < stop := Nat.lt_of_not_le empty
          obtain ⟨reached, cuts, place⟩ := cuts_of_found more found (named offset more _ found) ahead
          have within : stop ≤ text.length := (findAt_within inside found).2
          obtain ⟨rest, last, lexemes, order, answer⟩ := ih _ (by omega) within rfl
          simp only [place]
          rw [reached] at lexemes
          refine ⟨_ :: rest, last, .cons cuts lexemes, order, ?_⟩
          rcases answer with ⟨all, done⟩ | ⟨error, fails, broken⟩
          · exact .inl ⟨all, by rw [done]; rfl⟩
          · exact .inr ⟨error, fails, by rw [broken]; rfl⟩
    · rename_i done
      have all : offset = text.length := Nat.le_antisymm inside (Nat.le_of_not_lt done)
      exact ⟨[], offset, .nil, inside, .inl ⟨all, rfl⟩⟩

/-- The lexemes that are found, those of skipped kinds too, make up the text up to an offset, and
each has the place of its own offset. Either that is all of the text, and the tokens are those of
the other kinds, or it is where the lexer fails, and the error has the place of it. -/
theorem tokenize_lossless (lexer : Lexer) (text : String)
    (named : ∀ offset < text.length, ∀ found ∈ lexer.findAt text.toList.toArray offset,
      ∃ entry ∈ lexer.patterns, found.kind = some entry.1) :
    ∃ (matched : List Token) (offset : Nat), offset ≤ text.length ∧
      spelling matched = text.toList.take offset ∧
      (∀ earlier token later, matched = earlier ++ token :: later →
        lexer.Cuts text.toList (spelling earlier).length token) ∧
      (offset = text.length ∧ lexer.tokenize text =
          .ok (matched.filter fun token => !lexer.skip.contains token.kind) ∨
        ∃ error, lexer.Fails text.toList offset error ∧ lexer.tokenize text = .error error) := by
  rw [← String.length_toList] at named ⊢
  obtain ⟨matched, offset, lexemes, inside, answer⟩ :=
    cut_lexemes named (Nat.zero_le text.toList.length)
  refine ⟨matched, offset, inside, lexemes.spelled, fun earlier token later split => ?_, ?_⟩
  · rw [← Nat.zero_add (spelling earlier).length]
    exact lexemes.cuts split
  · have scanned {answer : Except TokenError (List Token)}
        (cutting : cut (lexer.findAt text.toList.toArray) text.toList.toArray 0
          (.behind (text.toList.take 0)) = answer) :
        lexer.tokenize text =
          answer.map fun tokens => tokens.filter fun token => !lexer.skip.contains token.kind :=
      congrArg (Except.map _) cutting
    rcases answer with ⟨all, done⟩ | ⟨error, fails, broken⟩
    · exact .inl ⟨all, scanned done⟩
    · exact .inr ⟨error, fails, scanned broken⟩

def words : Lexer where
  patterns := [("WORD", "[a-z]+"), ("BLANK", "[ \\n]+")]
  skip := ["BLANK"]
  combined := ⟨.choice
    (.sequence (.group 1 (.sequence
      (.repeated (.one (.set false ⟨false, false⟩ [.range 97 122])) 1 none false) .empty)) .empty)
    (.sequence (.group 2 (.sequence
      (.repeated (.one (.set false ⟨false, false⟩ [.range 32 32, .range 10 10])) 1 none false) .empty))
      .empty), [("WORD", 1), ("BLANK", 2)]⟩

/-- A line break inside a lexeme that is skipped counts for the places behind it. -/
theorem tokenize_lossless_words :
    let text := "if x\n y?"
    @create .ascii words.patterns words.skip = .ok words ∧
      (∀ offset < text.length, ∀ found ∈ words.findAt text.toList.toArray offset,
        ∃ entry ∈ words.patterns, found.kind = some entry.1) ∧
      words.tokenize "if x\n y" =
        .ok [⟨"if", "WORD", 1, 1⟩, ⟨"x", "WORD", 1, 4⟩, ⟨"y", "WORD", 2, 2⟩] ∧
      words.tokenize text = .error (.unexpected '?' ⟨2, 3⟩) ∧
      ∃ matched, spelling matched = "if x\n y".toList ∧ ∀ earlier token later,
        matched = earlier ++ token :: later →
          words.Cuts text.toList (spelling earlier).length token := by
  intro text
  have named : ∀ offset < text.length, ∀ found ∈ words.findAt text.toList.toArray offset,
      ∃ entry ∈ words.patterns, found.kind = some entry.1 := by decide
  have failed : words.tokenize text = .error (.unexpected '?' ⟨2, 3⟩) := by cbv
  refine ⟨by cbv, named, by cbv, failed, ?_⟩
  obtain ⟨matched, offset, inside, spelled, cuts, ⟨_, done⟩ | ⟨error, fails, broken⟩⟩ :=
    tokenize_lossless words text named
  · cases failed.symm.trans done
  · have same := Except.error.inj (failed.symm.trans broken)
    cases fails with
    | unexpected there =>
      -- The text has one question mark.
      rw [← (TokenError.unexpected.inj same).1] at there
      have last : ∀ offset ≤ text.length, text.toList[offset]? = some '?' → offset = 7 := by decide
      rw [last offset inside there] at spelled
      exact ⟨matched, spelled.trans (by decide), cuts⟩
    | empty => cases same

end Lexer

end Descent
