import Mathlib
import Descent.Proofs.Failures
import Descent.Proofs.Leaves
import Descent.Proofs.Recursion.Report

/-! What a parser answers.

A parse has a tree for all tokens, or one message. The message is placed at the token where the
machine stopped, or after the last. If nothing was derived, the message names the frame that
could not go on, and what it stood at is among the terminals that are expected.
-/

set_option autoImplicit false

namespace Descent

namespace Parse

/-- The line and the column of a token, or of what comes after the last. -/
inductive Locates (tokens : List Token) (position : Nat) : String → Prop where
  | token {token : Token} (there : tokens[position]? = some token) :
      Locates tokens position (toString token.line ++ ":" ++ toString token.column)
  | after {token : Token} (all : position = tokens.length) (last : tokens.getLast? = some token) :
      Locates tokens position
        (toString token.line ++ ":" ++ toString (token.column + (token.lexeme.length : Int)))
  | nothing (all : position = tokens.length) (empty : tokens = []) : Locates tokens position "1:1"

theorem place_locates {tokens : List Token} {position : Nat} (inside : position ≤ tokens.length) :
    Locates tokens position (place tokens position) := by
  unfold place
  cases there : tokens[position]? with
  | some token => exact .token there
  | none =>
    have all := Nat.le_antisymm inside (List.getElem?_eq_none_iff.mp there)
    cases last : tokens.getLast? with
    | some token => exact .after all last
    | none => exact .nothing all (List.getLast?_eq_none_iff.mp last)

end Parse

namespace Machine

inductive Finished (machine : Machine) (tokens : List Token) (goal : String)
    (outcome : Outcome Bool) : Prop where
  | accepted {tree : Tree} (result : outcome.result = .ok true)
      (derived : outcome.after.result = some tree) (branch : Node.IsBranch goal tree)
      (start : tree.start = 0) (stop : tree.stop = tokens.length)
  | leftover {tree : Tree} {failure : Failure} (result : outcome.result = .ok false)
      (derived : outcome.after.result = some tree) (left : outcome.after.cursor < tokens.length)
      (recorded : outcome.after.failure = some failure)
      (position : failure.position = outcome.after.cursor)
  | stopped {last : State} {frame : Frame} {terminal : Terminal} {failure : Failure}
      (result : outcome.result = .ok false) (underived : outcome.after.result = none)
      (rounds : machine.Rounds (machine.pushGoal goal (.initial tokens)).after last)
      (stops : machine.Stops tokens last frame terminal)
      (cursor : outcome.after.cursor = last.cursor)
      (recorded : outcome.after.failure = some failure)
      (names : failure.Names last.cursor frame terminal)
  | deep {exceeded : DepthExceeded} (result : outcome.result = .error (.depthExceeded exceeded))
      (cursor : outcome.after.cursor = exceeded.cursor)

section Finished

variable {machine : Machine} {goal : String}

theorem derive_deep {tokens : List Token} (known : machine.Knows goal)
    (room : 0 < machine.maxDepth) {exceeded : DepthExceeded}
    (result : (machine.derive goal tokens).result = .error (.depthExceeded exceeded)) :
    (machine.derive goal tokens).after.cursor = exceeded.cursor := by
  have reported : report (machine.derive goal tokens) = _ := derive_answer known room
  have answer := congrArg Prod.fst reported
  have cursor := congrArg (fun report => report.2.2) reported
  generalize machine.descend tokens [] goal 0 = found at answer cursor
  cases found with
  | derived | lost => cases result.symm.trans answer
  | overflow other =>
    cases result.symm.trans answer
    exact cursor

/-- A run from a goal accepts, has tokens left over, stops at a terminal, or is too deep. -/
theorem derive_finished (known : machine.Knows goal) (room : 0 < machine.maxDepth)
    (tokens : List Token) : machine.Finished tokens goal (machine.derive goal tokens) := by
  have standing : machine.Standing tokens goal _ := standing_goal known
  have reached : machine.Reached tokens goal _ := .goal
  have pushed : (machine.pushGoal goal (.initial tokens)).after = _ := (pushGoal_room room).2
  have behind : (machine.pushGoal goal (.initial tokens)).after.Behind := by
    rw [pushed]
    exact nofun
  have live : (machine.pushGoal goal (.initial tokens)).after.Live := by
    rw [pushed]
    exact .inl nofun
  have deep : ∀ exceeded, (machine.derive goal tokens).result = .error (.depthExceeded exceeded) →
      (machine.derive goal tokens).after.cursor = exceeded.cursor := fun _ => derive_deep known room
  rw [derive_run room] at deep ⊢
  generalize start : (machine.pushGoal goal (.initial tokens)).after = state at *
  obtain ⟨turns, sound, _⟩ := standing.ending_turns
  have outcome := machine.run_ending standing.installed
  rcases ended : machine.ending state with ⟨fault | _, final⟩
  · rw [ended] at sound outcome
    rcases sound with ⟨_, ⟨⟩⟩ | ⟨exceeded, ⟨⟩⟩
    exact .deep outcome.1 (deep exceeded outcome.1)
  · rw [ended] at turns outcome
    cases found : final.result with
    | none =>
      simp only [verdict, found, Outcome.done] at outcome
      obtain ⟨result, after⟩ := outcome
      obtain ⟨last, frame, terminal, failure, rounds, stops, cursor, recorded, names⟩ :=
        standing.ending_stops behind live ended found
      rw [← after] at cursor recorded found
      exact .stopped result found (start ▸ rounds) stops cursor recorded names
    | some tree =>
      by_cases left : final.cursor < tokens.length
      · obtain ⟨failure, same, position, _⟩ := (turns.behind behind).fail [tree.name] [.endOfInput]
        simp only [verdict, found, left, if_true, same, Outcome.done] at outcome
        obtain ⟨result, after⟩ := outcome
        exact .leftover result (by rw [after]) (by rw [after]; exact left) (by rw [after])
          (by rw [after]; exact position)
      · simp only [verdict, found, left, if_false, Outcome.done] at outcome
        obtain ⟨tree, derived, _, start, stop⟩ := reached.accepted outcome.1
        have branch := ((reached.run.growing known).result tree derived).1
        exact .accepted outcome.1 derived branch start stop

end Finished

/-- What a message says after the place, of a run of the machine from the start rule. -/
inductive Complaint (machine : Machine) (tokens : List Token) (outcome : Outcome Bool) :
    String → Prop where
  | deep {exceeded : DepthExceeded} (result : outcome.result = .error (.depthExceeded exceeded)) :
      Complaint machine tokens outcome ("Critical parsing error: " ++ exceeded.message)
  | leftover {tree : Tree} (derived : outcome.after.result = some tree)
      (left : outcome.after.cursor < tokens.length) :
      Complaint machine tokens outcome
        (Parse.unexpected tokens outcome.after.cursor ++ ". Expected end of input")
  | stopped {last : State} {frame : Frame} {terminal : Terminal} {expected : List String}
      (underived : outcome.after.result = none)
      (rounds : machine.Rounds
        (machine.pushGoal machine.grammar.start.name (.initial tokens)).after last)
      (stops : machine.Stops tokens last frame terminal)
      (cursor : outcome.after.cursor = last.cursor)
      (among : terminal.criterion.display ∈ expected) :
      Complaint machine tokens outcome (Parse.unexpected tokens outcome.after.cursor ++
        " while parsing " ++ frame.symbol ++ ". Expected one of: " ++ ", ".intercalate expected)

end Machine

theorem Failure.Names.among {failure : Failure} {cursor : Nat} {frame : Frame} {terminal : Terminal}
    (names : failure.Names cursor frame terminal) :
    terminal.criterion.display ∈ failure.expectedTexts :=
  mem_expectedTexts.mpr ⟨_, names.expected, rfl⟩

namespace Parser

def machine (parser : Parser) : Machine := ⟨parser.grammar, parser.maxDepth.toNat⟩

section Messages

variable {parser : Parser} {tokens : List Token}

theorem parse_eq (deep : 1 ≤ parser.maxDepth) :
    parser.parse tokens = match (finish parser.machine tokens).result with
      | .ok true => .ok (.success (finish parser.machine tokens).after.result)
      | .ok false =>
        match (finish parser.machine tokens).after.failure with
        | some failure => .ok (.failed (Parse.failureMessage tokens
            (finish parser.machine tokens).after.result failure))
        | none => .ok ⟨none, []⟩
      | .error (.depthExceeded exceeded) => .ok (.failed (Parse.depthMessage tokens exceeded))
      | .error fault => .error fault := by
  have created : Machine.create parser.grammar parser.maxDepth = .ok parser.machine :=
    if_neg (Int.not_lt.mpr deep)
  unfold parse
  rw [created]
  rfl

theorem parse_failed (deep : 1 ≤ parser.maxDepth) {failure : Failure} {position : Nat}
    {complaint : String} (result : (finish parser.machine tokens).result = .ok false)
    (recorded : (finish parser.machine tokens).after.failure = some failure)
    (place : failure.position = position)
    (words : Parse.unexpected tokens position ++
      (if (finish parser.machine tokens).after.result.isSome then ". Expected end of input"
        else " while parsing " ++ failure.symbols.getLastD "" ++ ". Expected one of: " ++
          ", ".intercalate failure.expectedTexts) = complaint) :
    parser.parse tokens = .ok ⟨none, [Parse.place tokens position ++ ": " ++ complaint]⟩ := by
  rw [parse_eq deep, result]
  dsimp only
  rw [recorded]
  subst place words
  simp only [Parse.failed, Parse.failureMessage, String.append_assoc]

theorem knows_start : parser.machine.Knows parser.grammar.start.name := by
  obtain ⟨rule, member, head⟩ := List.mem_map.mp parser.grammar.start_mem
  exact ⟨rule, member, congrArg NonTerminal.name head⟩

end Messages

/-- A parser never breaks off. It answers with a tree of the start rule for all tokens, or with
one message about the place where the machine stopped. -/
theorem parse_answers (parser : Parser) (tokens : List Token) (deep : 1 ≤ parser.maxDepth) :
    (∃ tree, parser.parse tokens = .ok ⟨some tree, []⟩ ∧
        Node.IsBranch parser.grammar.start.name tree ∧ tree.start = 0 ∧
        tree.stop = tokens.length) ∨
      ∃ place complaint, parser.parse tokens = .ok ⟨none, [place ++ ": " ++ complaint]⟩ ∧
        Parse.Locates tokens (finish parser.machine tokens).after.cursor place ∧
        parser.machine.Complaint tokens (finish parser.machine tokens) complaint := by
  have room : 0 < parser.machine.maxDepth := by
    show 0 < parser.maxDepth.toNat
    omega
  have finished : parser.machine.Finished tokens parser.grammar.start.name
      (finish parser.machine tokens) := by
    rw [Machine.finish_eq_derive]
    exact Machine.derive_finished knows_start room tokens
  have reached : parser.machine.Reached tokens parser.grammar.start.name
      (finish parser.machine tokens).after := by
    rw [Machine.finish_eq_derive]
    exact Machine.derive_reached
  have located := Parse.place_locates (reached.standing knows_start).inside
  cases finished with
  | accepted result derived branch start stop =>
    refine .inl ⟨_, ?_, branch, start, stop⟩
    rw [parse_eq deep, result, derived]
    rfl
  | leftover result derived left recorded position =>
    refine .inr ⟨_, _, parse_failed deep result recorded position ?_, located,
      .leftover derived left⟩
    rw [derived]
    rfl
  | stopped result underived rounds stops cursor recorded names =>
    have place := names.position.trans cursor.symm
    refine .inr ⟨_, _, parse_failed deep result recorded place ?_, located,
      .stopped underived rounds stops cursor names.among⟩
    rw [underived, List.getLastD_eq_getLast?, names.symbols]
    simp only [Option.isSome_none, Bool.false_eq_true, if_false, Option.getD_some,
      String.append_assoc]
  | deep result cursor =>
    refine .inr ⟨_, _, ?_, located, .deep result⟩
    rw [parse_eq deep, result, cursor]
    simp only [Parse.failed, Parse.depthMessage, String.append_assoc]
    rfl

/-- Brackets that are closed, and brackets that are not. -/
theorem parse_answers_brackets :
    let parser : Parser := ⟨Brackets.grammar, 3⟩
    let outcome := finish parser.machine (Brackets.tokens ["a"])
    parser.parse (Brackets.tokens ["a", "b"]) = .ok ⟨some (.branch "S" 0 2
        [.leaf "WORD" "a" 0 1, .branch "S" 1 1 [], .leaf "WORD" "b" 1 2]), []⟩ ∧
      parser.parse (Brackets.tokens ["a"]) = .ok ⟨none, ["1:2: Syntax Error: " ++
        "Unexpected end of file while parsing S. Expected one of: \"a\", \"b\""]⟩ ∧
      ∃ place complaint,
        parser.parse (Brackets.tokens ["a"]) = .ok ⟨none, [place ++ ": " ++ complaint]⟩ ∧
        Parse.Locates (Brackets.tokens ["a"]) outcome.after.cursor place ∧
        parser.machine.Complaint (Brackets.tokens ["a"]) outcome complaint := by
  intro parser outcome
  have open_ : parser.parse (Brackets.tokens ["a"]) = .ok ⟨none, ["1:2: Syntax Error: " ++
      "Unexpected end of file while parsing S. Expected one of: \"a\", \"b\""]⟩ := by cbv
  refine ⟨by cbv, open_, ?_⟩
  rcases parse_answers parser (Brackets.tokens ["a"]) (by decide) with ⟨tree, parsed, _⟩ | failed
  · cases open_.symm.trans parsed
  · exact failed

end Parser

end Descent
