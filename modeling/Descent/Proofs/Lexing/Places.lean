import Mathlib
import Descent.Parser
import Descent.Proofs.Lexing.Lexemes
import Descent.Proofs.Text

/-! Where the tokens of a text end.

The lexer carries its place along through every lexeme, line breaks and all. The parser has only the
tokens, and finds the place behind the last of them by adding its length to its column. Both name
one place as long as the last lexeme has no line break.
-/

set_option autoImplicit false

namespace Descent

namespace Place

variable {place other : Place} {text : List Char}

theorem after_plain (plain : '\n' ∉ text) :
    place.after text = ⟨place.line, place.column + text.length⟩ := by
  induction text generalizing place with
  | nil => rfl
  | cons c rest ih =>
    have first : place.next c = ⟨place.line, place.column + 1⟩ :=
      if_neg (List.ne_of_not_mem_cons plain).symm
    show (place.next c).after rest = _
    rw [first, ih (List.not_mem_of_not_mem_cons plain), List.length_cons, Nat.add_assoc,
      Nat.add_comm 1]

theorem line_le_after (place : Place) (text : List Char) : place.line ≤ (place.after text).line := by
  induction text generalizing place with
  | nil => exact Nat.le_refl _
  | cons c rest ih =>
    refine Nat.le_trans ?_ (ih (place.next c))
    unfold next
    split
    · exact Nat.le_succ _
    · exact Nat.le_refl _

theorem line_lt_after (broken : '\n' ∈ text) : place.line < (place.after text).line := by
  obtain ⟨before, behind, rfl⟩ := List.append_of_mem broken
  have split : place.after (before ++ '\n' :: behind) =
      ((place.after before).next '\n').after behind := List.foldl_append ..
  have next : ((place.after before).next '\n').line = (place.after before).line + 1 := rfl
  have up := line_le_after place before
  have further := line_le_after ((place.after before).next '\n') behind
  rw [split]
  omega

theorem line_of_display (same : place.display = other.display) : place.line = other.line := by
  have digits := Text.numerals_nat.not_mem ':' (by decide) (by decide)
  have shown (place : Place) : place.display.toList =
      (toString place.line).toList ++ ':' :: (toString place.column).toList := by
    unfold display
    rw [String.toList_append, String.toList_append]
    exact List.append_assoc ..
  have lists := congrArg String.toList same
  rw [shown, shown] at lists
  have lines := (Text.append_cons_inj_of_first (digits place.line) (digits other.line) lists).1
  exact Text.numerals_nat.told (String.toList_inj.mp lines)

end Place

/-- The parser counts the characters of the last token, and no line breaks. -/
theorem Parse.place_end {tokens : List Token} {last : Token} (ends : tokens.getLast? = some last)
    {place : Place} (line : last.line = place.line) (column : last.column = place.column) :
    Parse.place tokens tokens.length =
      Place.display ⟨place.line, place.column + last.lexeme.toList.length⟩ := by
  unfold Parse.place
  rw [List.getElem?_eq_none (Nat.le_refl _), ends]
  dsimp only
  rw [line, column, ← Nat.cast_add, String.length_toList]
  rfl

namespace Lexer

variable {lexer : Lexer} {text before : List Char} {tokens : List Token} {token : Token}

/-- Tokens one after the other, each with the place behind the text before it. -/
inductive Placed : List Char → List Token → Prop where
  | nil {before : List Char} : Placed before []
  | cons {before : List Char} {token : Token} {rest : List Token}
      (line : token.line = (Place.behind before).line)
      (column : token.column = (Place.behind before).column)
      (more : Placed (before ++ token.lexeme.toList) rest) : Placed before (token :: rest)

theorem Placed.behind (placed : Placed before tokens) {earlier later : List Token}
    (split : tokens = earlier ++ token :: later) :
    token.line = (Place.behind (before ++ spelling earlier)).line ∧
      token.column = (Place.behind (before ++ spelling earlier)).column := by
  induction placed generalizing earlier with
  | nil => simp at split
  | @cons before first rest line column more ih =>
    cases earlier with
    | nil =>
      cases split
      rw [show before ++ spelling [] = before from List.append_nil _]
      exact ⟨line, column⟩
    | cons other earlier =>
      obtain ⟨rfl, same⟩ := List.cons.inj split
      have deeper := ih same
      rw [List.append_assoc] at deeper
      exact deeper

theorem cut_placed {find : Nat → Option Find} {source : Array Char} {position : Nat}
    (done : cut find source position (.behind (source.toList.take position)) = .ok tokens) :
    Placed (source.toList.take position) tokens ∧
      source.toList.take position ++ spelling tokens = source.toList := by
  induction left : source.size - position using Nat.strongRecOn generalizing position tokens with
  | ind left ih =>
    rw [cut] at done
    split at done
    · split at done
      · cases done
      · cases done
      · rename_i kind stop found
        split at done
        · cases done
        · rename_i ahead
          have ahead : position < stop := Nat.lt_of_not_le ahead
          have grown : source.toList.take position ++ (source.extract position stop).toList =
              source.toList.take stop := by
            rw [Array.toList_extract, List.extract_eq_take_drop, ← List.take_add]
            congr 1
            omega
          dsimp only at done
          rw [Place.after_behind, grown] at done
          cases cutting : cut find source stop (.behind (source.toList.take stop)) with
          | error cause =>
            rw [cutting] at done
            cases done
          | ok rest =>
            rw [cutting] at done
            cases done
            obtain ⟨placed, all⟩ := ih (source.size - stop) (by omega) cutting rfl
            rw [← grown, ← String.toList_ofList (l := (source.extract position stop).toList)] at placed all
            exact ⟨.cons rfl rfl placed, (List.append_assoc ..).symm.trans all⟩
    · rename_i ended
      cases done
      have all : source.toList.length ≤ position := by
        rw [Array.length_toList]
        exact Nat.le_of_not_lt ended
      exact ⟨.nil, (List.append_nil _).trans (List.take_of_length_le all)⟩

theorem scan_placed {text : String} (done : lexer.scan text = .ok tokens) :
    Placed [] tokens ∧ spelling tokens = text.toList := cut_placed done

theorem exists_of_tokenize {text : String} {last : Token} (done : lexer.tokenize text = .ok tokens)
    (ends : tokens.getLast? = some last) :
    ∃ earlier later, lexer.scan text = .ok (earlier ++ last :: later) ∧
      ∀ token ∈ later, token.kind ∈ lexer.skip := by
  unfold tokenize at done
  cases scanned : lexer.scan text with
  | error cause =>
    rw [scanned] at done
    cases done
  | ok matched =>
    rw [scanned] at done
    cases done
    obtain ⟨front, kept⟩ := List.getLast?_eq_some_iff.mp ends
    obtain ⟨first, second, rfl, _, closing⟩ := List.filter_eq_append_iff.mp kept
    obtain ⟨between, later, rfl, _, _, skipped⟩ := List.filter_eq_cons_iff.mp closing
    refine ⟨first ++ between, later, by rw [List.append_assoc], fun token member => ?_⟩
    have out := List.filter_eq_nil_iff.mp skipped token member
    simpa using out

/-- Behind the last token the parser names the place that the lexer has come to, unless the token has
a line break in it. -/
theorem tokenize_place_end {text : String} {last : Token} (done : lexer.tokenize text = .ok tokens)
    (ends : tokens.getLast? = some last) :
    ∃ earlier later, lexer.scan text = .ok (earlier ++ last :: later) ∧
      (∀ token ∈ later, token.kind ∈ lexer.skip) ∧
      text.toList = spelling (earlier ++ [last]) ++ spelling later ∧
      (Parse.place tokens tokens.length =
          (Place.start.after (spelling (earlier ++ [last]))).display ↔
        '\n' ∉ last.lexeme.toList) := by
  obtain ⟨earlier, later, scanned, skipped⟩ := exists_of_tokenize done ends
  obtain ⟨placed, all⟩ := scan_placed scanned
  obtain ⟨line, column⟩ := placed.behind rfl
  rw [List.nil_append] at line column
  refine ⟨earlier, later, scanned, skipped, ?_, ?_⟩
  · rw [← all]
    simp [spelling]
  · have stop : Place.start.after (spelling (earlier ++ [last])) =
        (Place.behind (spelling earlier)).after last.lexeme.toList := by
      have split : spelling (earlier ++ [last]) = spelling earlier ++ last.lexeme.toList := by
        simp [spelling]
      rw [split, Place.after_behind]
      exact Place.after_behind [] _
    rw [Parse.place_end ends line column, stop]
    constructor
    · intro same broken
      have lines := Place.line_of_display same
      have further : (Place.behind (spelling earlier)).line < _ := Place.line_lt_after broken
      exact absurd lines (Nat.ne_of_lt further)
    · intro plain
      rw [Place.after_plain plain]

/-- The blanks at the end are skipped, and the place is the one in front of them. -/
theorem tokenize_place_end_words :
    let tokens : List Token := [⟨"if", "WORD", 1, 1⟩, ⟨"x", "WORD", 1, 4⟩]
    words.tokenize "if x\n " = .ok tokens ∧ tokens.getLast? = some ⟨"x", "WORD", 1, 4⟩ ∧
      Parse.place tokens tokens.length = "1:5" ∧
      ∃ earlier later, words.scan "if x\n " = .ok (earlier ++ ⟨"x", "WORD", 1, 4⟩ :: later) ∧
        (∀ token ∈ later, token.kind ∈ words.skip) ∧
        "if x\n ".toList = spelling (earlier ++ [⟨"x", "WORD", 1, 4⟩]) ++ spelling later ∧
        Parse.place tokens tokens.length =
          (Place.start.after (spelling (earlier ++ [⟨"x", "WORD", 1, 4⟩]))).display := by
  intro tokens
  have done : words.tokenize "if x\n " = .ok tokens := by cbv
  obtain ⟨earlier, later, scanned, skipped, all, agree⟩ := tokenize_place_end done rfl
  exact ⟨done, rfl, by decide, earlier, later, scanned, skipped, all, agree.mpr (by decide)⟩

def tags : Lexer where
  patterns := [("TAG", "<[^>]*>")]
  skip := []
  combined := ⟨.sequence
    (.group 1 (.sequence (.one (.set false ⟨false, false⟩ [.range 60 60]))
      (.sequence (.repeated (.one (.set true ⟨false, false⟩ [.range 62 62])) 0 none false)
        (.sequence (.one (.set false ⟨false, false⟩ [.range 62 62])) .empty)))) .empty, [("TAG", 1)]⟩

/-- The lexer has come to the second line, and the parser stays on the first. -/
theorem tokenize_place_end_broken :
    @create .ascii tags.patterns tags.skip = .ok tags ∧
      tags.tokenize "<\n>" = .ok [⟨"<\n>", "TAG", 1, 1⟩] ∧
      Parse.place [⟨"<\n>", "TAG", 1, 1⟩] 1 = "1:4" ∧
      (Place.start.after "<\n>".toList).display = "2:2" ∧
      Parse.place [⟨"<\n>", "TAG", 1, 1⟩] 1 ≠ (Place.start.after "<\n>".toList).display :=
  ⟨by cbv, by cbv, by decide, by decide, by decide⟩

end Lexer

end Descent
