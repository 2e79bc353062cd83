import Mathlib
import Descent.Proofs.Expected
import Descent.Proofs.Exploration.Tables

/-! What a syntax error does not list.

Two runs are compared over tokens that differ at one place. They go through the same states until
a step looks at that place and does something else. Where the one run stops there and the other
goes on, the step that parts them has left something on record that matches the other token, or it
predicted a production, or it passed an optional terminal.
-/

set_option autoImplicit false

namespace Descent

/-- A terminal of the grammar that matches the token is among the texts of what was expected. -/
def Failure.Lists (failure : Failure) (grammar : Grammar) (token : Token) : Prop :=
  ∃ terminal ∈ grammar.terminals, terminal.accepts token = true ∧
    terminal.criterion.display ∈ failure.expectedTexts

instance (failure : Failure) (grammar : Grammar) (token : Token) :
    Decidable (failure.Lists grammar token) :=
  decidable_of_iff (∃ terminal ∈ grammar.terminals, terminal.accepts token = true ∧
      ∃ expectation ∈ failure.expected, expectation.display = terminal.criterion.display) <| by
    unfold Failure.Lists
    simp only [Failure.mem_expectedTexts]

namespace Grammar

variable {grammar : Grammar} {criterion : Criterion}

theorem exists_terminal (mentioned : criterion ∈ OpeningTable.alphabet grammar.rules) :
    ∃ terminal ∈ grammar.terminals, terminal.criterion = criterion := by
  have same : grammar.terminals.map Terminal.criterion = (OpeningTable.alphabet grammar.rules).eraseDups :=
    TerminalSet.criteria_ofList _
  exact List.mem_map.mp (by rw [same, List.mem_eraseDups]; exact mentioned)

theorem opening_alphabet (grammar : Grammar) (symbol : String) :
    (grammar.opening symbol).first.criteria ⊆ OpeningTable.alphabet grammar.rules :=
  (grammar.openings_settle.invariant (OpeningTable.within_bottom grammar.rules)
    OpeningTable.Within.pass).opening symbol

theorem terminal_alphabet {head : String} {production : Production} {element : Element}
    {terminal : Terminal} (listed : grammar.Lists head production) (member : element ∈ production)
    (mentions : element.symbol? = some (.terminal terminal)) :
    terminal.criterion ∈ OpeningTable.alphabet grammar.rules := by
  obtain ⟨rule, rules, _, inside⟩ := listed
  have found : element.symbol?.bind Symbol.terminal? = some terminal := by
    rw [mentions]
    rfl
  exact List.mem_map_of_mem (List.mem_flatMap.mpr ⟨rule, rules, List.mem_flatMap.mpr
    ⟨production, inside, List.mem_filterMap.mpr ⟨element, member, found⟩⟩⟩)

end Grammar

namespace Machine

section Reading

variable {machine : Machine} {tokens others : List Token} {goal : String} {state after : State}
  {frame : Frame} {below : List Frame}

theorem unwind_reading (machine : Machine) (state : State) (others : List Token)
    (frames : List Frame) :
    machine.unwind (state.reading others) frames = (machine.unwind state frames).reading others := by
  obtain ⟨tokens, cursor, stack, markers, trace, result, failure⟩ := state
  show machine.unwind ⟨some others, cursor, stack, markers, trace, result, failure⟩ frames = _
  induction frames generalizing markers with
  | nil => rfl
  | cons frame below ih =>
    unfold unwind
    cases machine.grammar.productionsOf frame.symbol with
    | error unknown => rfl
    | ok productions =>
      dsimp only
      by_cases more : decide (frame.start < cursor) = false ∧
          frame.nextProduction < productions.length
      · rw [if_pos more, if_pos more]
        rfl
      · rw [if_neg more, if_neg more]
        by_cases held : frame.marker ∈ markers
        · rw [if_pos held, if_pos held]
          by_cases absent : frame.origin.tentative = true ∧ decide (frame.start < cursor) = false
          · rw [if_pos absent, if_pos absent]
            cases frame.origin <;> cases below <;> rfl
          · rw [if_neg absent, if_neg absent, ih (markers.erase frame.marker)]
            rfl
        · rw [if_neg held, if_neg held]
          rfl

theorem backtrack_reading (machine : Machine) (state : State) (others : List Token) :
    machine.backtrack (state.reading others) = (machine.backtrack state).reading others :=
  machine.unwind_reading state others state.stack

def Agrees (machine : Machine) (others : List Token) (state : State) : Prop :=
  Gives (machine.step (state.reading others)) (machine.step state).result
    ((machine.step state).after.reading others)

/-- What a step and all backtracks carry over to another state, a round does. -/
theorem round_carried (carry : State → State)
    (stepped : Gives (machine.step (carry state)) (machine.step state).result
      (carry (machine.step state).after))
    (backs : ∀ stuck, Gives (machine.backtrack (carry stuck)) (machine.backtrack stuck).result
      (carry (machine.backtrack stuck).after)) :
    Gives (machine.round (carry state)) (machine.round state).result
      (carry (machine.round state).after) := by
  by_cases failed : (machine.step state).result = .ok false
  · obtain ⟨answer, left⟩ := round_backtrack ⟨failed, rfl⟩
    rw [failed] at stepped
    obtain ⟨other, beside⟩ := round_backtrack stepped
    obtain ⟨result, after⟩ := backs (machine.step state).after
    rw [answer, left]
    exact ⟨other.trans result, beside.trans after⟩
  · obtain ⟨answer, left⟩ := round_step (.self (machine.step state)) failed
    rw [answer, left]
    exact round_step stepped failed

theorem Agrees.round (agrees : machine.Agrees others state) :
    Gives (machine.round (state.reading others)) (machine.round state).result
      ((machine.round state).after.reading others) := by
  refine round_carried (State.reading · others) agrees fun stuck => ?_
  rw [backtrack_reading]
  exact ⟨rfl, rfl⟩

theorem Agrees.ending (agrees : machine.Agrees others state) (filled : state.stack ≠ []) :
    machine.ending (state.reading others) =
      match (machine.round state).result with
      | .ok true => machine.ending ((machine.round state).after.reading others)
      | .ok false => (.ok (), (machine.round state).after.reading others)
      | .error fault => (.error fault, (machine.round state).after.reading others) := by
  have next : machine.ending (state.reading others) = _ := ending_round filled
  rw [agrees.round.1, agrees.round.2] at next
  exact next

inductive Parts (machine : Machine) (others : List Token) (state last : State) : Prop where
  | at (rounds : machine.Rounds state last)
      (elsewhere : machine.Rounds (state.reading others) (last.reading others))
      (filled : last.stack ≠ []) (apart : ¬machine.Agrees others last)

/-- Two runs part, or they end alike. -/
theorem ending_parts (machine : Machine) (others : List Token) (state : State) :
    (∃ last, machine.Parts others state last) ∨
      machine.ending (state.reading others) =
        ((machine.ending state).1, (machine.ending state).2.reading others) := by
  -- Round by round, as long as the steps agree.
  induction state using machine.ending_induct with
  | empty state stack ended =>
    right
    rw [ended]
    exact ending_empty stack
  | again state filled went ended ih =>
    by_cases agrees : machine.Agrees others state
    · have other := agrees.round
      rw [went] at other
      rcases ih with ⟨last, rounds, elsewhere, still, apart⟩ | alike
      · exact .inl ⟨last, .head ⟨went, rfl⟩ rounds, .head other elsewhere, still, apart⟩
      · right
        rw [ended, agrees.ending filled, went]
        exact alike
    · exact .inl ⟨state, .refl, .refl, filled, agrees⟩
  | last state filled lost ended =>
    by_cases agrees : machine.Agrees others state
    · right
      rw [ended, agrees.ending filled, lost]
    · exact .inl ⟨state, .refl, .refl, filled, agrees⟩
  | broken state fault filled failed ended =>
    by_cases agrees : machine.Agrees others state
    · right
      rw [ended, agrees.ending filled, failed]
    · exact .inl ⟨state, .refl, .refl, filled, agrees⟩

theorem Standing.reading (standing : machine.Standing tokens goal state)
    (inside : state.cursor ≤ others.length) :
    machine.Standing others goal (state.reading others) :=
  ⟨rfl, inside, standing.markers, standing.tower, standing.depth, standing.top⟩

end Reading

section Apart

variable {machine : Machine} {tokens others : List Token} {goal : String} {state after : State}
  {frame : Frame} {below : List Frame} {token other : Token}

/-- The frame stands at the terminal, which it may do without. -/
def At (machine : Machine) (frame : Frame) (terminal : Terminal) : Prop :=
  machine.element? frame = some (.required (.terminal terminal)) ∨
    machine.element? frame = some (.optional (some (.terminal terminal)))

theorem move_congr (refused : ∀ terminal, machine.At frame terminal →
    terminal.accepts token = false ∧ terminal.accepts other = false) :
    machine.move (machine.table frame.symbol) (some token) frame =
      machine.move (machine.table frame.symbol) (some other) frame := by
  unfold move
  cases current : frame.production.bind ((machine.table frame.symbol)[·]?) with
  | none => rfl
  | some production =>
    dsimp only
    cases found : production[frame.element]? with
    | none => rfl
    | some element =>
      have slot : machine.element? frame = some element :=
        Option.bind_eq_some_iff.mpr ⟨production, current, found⟩
      rcases element with (terminal | symbol) | (_ | terminal | symbol)
      · obtain ⟨first, second⟩ := refused terminal (.inl slot)
        simp only [first, second]
        rfl
      · rfl
      · rfl
      · obtain ⟨first, second⟩ := refused terminal (.inr slot)
        simp only [first, second]
        rfl
      · rfl

/-- Two tokens part a step if one of them predicts a production, or if the frame stands at a
terminal that matches one of them. -/
theorem Standing.apart (standing : machine.Standing tokens goal state)
    (stack : state.stack = frame :: below) (there : tokens[state.cursor]? = some token)
    (elsewhere : others[state.cursor]? = some other) (apart : ¬machine.Agrees others state) :
    (∃ production, machine.predicted? (machine.table frame.symbol) (some token) frame =
        some production) ∨
      machine.predicted? (machine.table frame.symbol) (some token) frame = none ∧
        (∃ production, machine.predicted? (machine.table frame.symbol) (some other) frame =
          some production) ∨
      ∃ terminal, machine.At frame terminal ∧
        (terminal.accepts token = true ∨ terminal.accepts other = true) := by
  cases predicted : machine.predicted? (machine.table frame.symbol) (some token) frame with
  | some production => exact .inl ⟨production, rfl⟩
  | none =>
    cases foreseen : machine.predicted? (machine.table frame.symbol) (some other) frame with
    | some production => exact .inr (.inl ⟨rfl, production, rfl⟩)
    | none =>
      refine .inr (.inr (by_contra fun accepts => apart ?_))
      have same : machine.move (machine.table frame.symbol) (some token) frame =
          machine.move (machine.table frame.symbol) (some other) frame := by
        refine move_congr fun terminal stands => ?_
        constructor
        · exact Bool.eq_false_iff.mpr fun taken => accepts ⟨terminal, stands, .inl taken⟩
        · exact Bool.eq_false_iff.mpr fun taken => accepts ⟨terminal, stands, .inr taken⟩
      have acted : machine.act (machine.table frame.symbol) (some other) state frame below =
          machine.act (machine.table frame.symbol) (some token) state frame below := by
        unfold act
        rw [predicted, foreseen, same]
      have inside := (List.getElem?_eq_some_iff.mp elsewhere).1
      have here := standing.step_act stack
      have beside : Gives (machine.step (state.reading others)) _ _ :=
        (standing.reading inside.le).step_act stack
      rw [there] at here
      rw [show (state.reading others).cursor = state.cursor from rfl, elsewhere, act_reading, acted]
        at beside
      exact ⟨beside.1.trans here.1.symm, beside.2.trans (congrArg (State.reading · others) here.2.symm)⟩

theorem FailsAt.after_rounds {position : Nat} {expected : List Expectation}
    (rounds : machine.Rounds state after)
    (fails : machine.FailsAt tokens after position frame expected) :
    machine.FailsAt tokens state position frame expected := by
  obtain ⟨later, here, top, failed, stuck⟩ := fails
  exact ⟨rounds.trans later, here, top, failed, stuck⟩

/-- Where a loop ends at a token that a frame without a production can begin with, there is one that
fails at the token and expects it. -/
theorem Standing.conceals (standing : machine.Standing tokens goal state)
    (stack : state.stack = frame :: below) (unselected : frame.production = none)
    (there : tokens[state.cursor]? = some token)
    (accepted : (machine.grammar.opening frame.symbol).first.accepts token = true)
    (ended : machine.ending state = (.ok (), after)) (still : after.cursor = state.cursor) :
    ∃ culprit expected criterion, machine.FailsAt tokens state state.cursor culprit expected ∧
      .terminal criterion ∈ expected ∧ criterion.accepts token = true := by
  -- A prediction calls for a nonterminal that can begin with the token as well. It is the induction
  -- that goes up the stack, which has an end.
  induction room : machine.maxDepth - state.stack.length using Nat.strong_induction_on
    generalizing state frame below with
  | _ left ih =>
    cases predicted : machine.predicted? (machine.table frame.symbol) tokens[state.cursor]? frame with
    | none =>
      obtain ⟨criterion, member, accepts⟩ := (TerminalSet.accepts_iff _ token).mp accepted
      have failed := standing.step_unselected stack unselected predicted
      exact ⟨frame, _, criterion, ⟨.refl, rfl, stack, failed.1, .unselected unselected predicted⟩,
        List.mem_map_of_mem member, accepts⟩
    | some production =>
      rcases standing.step_foreseen stack predicted with
        ⟨next, went, further⟩ | ⟨_, symbol, origin, parent, same, begins, high, went⟩ | ⟨fault, broken⟩
      · rw [ending_step went] at ended
        have le := machine.ending_cursor next
        rw [ended] at le
        exact absurd (further.trans_le (le.trans still.le)) (Nat.lt_irrefl _)
      · cases same.symm.trans there
        rw [ending_step went] at ended
        have higher := standing.turns (standing.step_turns stack).1
        rw [went.2] at higher
        have less : machine.maxDepth - (below.length + 2) < left := by
          rw [stack, List.length_cons] at room high
          omega
        obtain ⟨culprit, expected, criterion, fails, listed⟩ :=
          ih _ less higher rfl rfl there begins ended still rfl
        exact ⟨culprit, expected, criterion,
          fails.after_rounds (.single (round_step went nofun)), listed⟩
      · have filled : state.stack ≠ [] := by
          rw [stack]
          nofun
        rw [ending_fault filled ⟨broken, rfl⟩] at ended
        cases ended

theorem Standing.refuses (standing : machine.Standing tokens goal state)
    (stack : state.stack = frame :: below) (there : tokens[state.cursor]? = some token)
    {terminal : Terminal} (stands : machine.At frame terminal)
    (ended : machine.ending state = (.ok (), after)) (still : after.cursor = state.cursor) :
    terminal.accepts token = false := by
  refine Bool.eq_false_iff.mpr fun taken => ?_
  have shifted := standing.step_shift stack there stands taken
  have further := machine.ending_cursor (Machine.shift state token frame below)
  rw [← ending_step shifted, ended, still] at further
  exact absurd further (Nat.not_succ_le_self _)

end Apart

section Loses

variable {machine : Machine} {tokens : List Token} {goal : String} {frame : Frame}
  {below : List Frame} {expected : List Expectation} {criterion : Criterion} {failure : Failure}
  {token other : Token}

theorem Stuck.exists_terminal {lookahead : Option Token}
    (stuck : machine.Stuck lookahead frame expected) (listed : .terminal criterion ∈ expected) :
    ∃ terminal ∈ machine.grammar.terminals, terminal.criterion = criterion := by
  refine Grammar.exists_terminal ?_
  cases stuck with
  | unselected =>
    obtain ⟨_, member, same⟩ := List.mem_map.mp listed
    cases same
    exact machine.grammar.opening_alphabet frame.symbol member
  | terminal slot =>
    cases List.mem_singleton.mp listed
    obtain ⟨production, current, found⟩ := element?_eq_some slot
    exact Grammar.terminal_alphabet (lists_of_mem_table (current?_mem current))
      (List.mem_of_getElem? found) rfl

theorem Loses.lists (loses : machine.Loses goal tokens failure)
    (fails : machine.FailsAt tokens (machine.pushGoal goal (.initial tokens)).after failure.position
      frame expected)
    (listed : .terminal criterion ∈ expected) (accepted : criterion.accepts token = true) :
    failure.Lists machine.grammar token := by
  have recorded := (loses.expected_iff (.terminal criterion)).mpr ⟨frame, expected, fails, listed⟩
  obtain ⟨terminal, member, rfl⟩ := fails.stuck.exists_terminal listed
  exact ⟨terminal, member, accepted, Failure.mem_expectedTexts.mpr ⟨_, recorded, rfl⟩⟩

theorem Loses.position (loses : machine.Loses goal tokens failure) :
    failure.position = (machine.derive goal tokens).after.cursor := by
  obtain ⟨other, recorded, position⟩ := derive_rejected loses.rejected
  cases recorded.symm.trans loses.recorded
  exact position

theorem derive_cursor (room : 0 < machine.maxDepth) :
    (machine.derive goal tokens).after.cursor =
      (machine.ending (machine.pushGoal goal (.initial tokens)).after).2.cursor := by
  have installed : (machine.pushGoal goal (.initial tokens)).after.tokens = some tokens := by
    rw [(pushGoal_room room).2]
    rfl
  rw [derive_run room, (machine.run_ending installed).2]
  rcases machine.ending (machine.pushGoal goal (.initial tokens)).after with ⟨fault | _, final⟩
  · rfl
  · exact verdict_cursor

theorem Loses.parts (loses : machine.Loses goal tokens failure)
    (moves : failure.position <
      (machine.derive goal (tokens.set failure.position other)).after.cursor) :
    ∃ last, machine.Parts (tokens.set failure.position other)
        (machine.pushGoal goal (.initial tokens)).after last ∧
      last.cursor = failure.position := by
  rw [derive_cursor loses.room, pushGoal_reading goal tokens] at moves
  rcases machine.ending_parts (tokens.set failure.position other)
    (machine.pushGoal goal (.initial tokens)).after with ⟨last, parts⟩ | alike
  · refine ⟨last, parts, ?_⟩
    obtain ⟨rounds, _, _, apart⟩ := parts
    have standing := loses.standing.rounds rounds
    -- At any other place the tokens are the same.
    by_contra elsewhere
    refine apart ?_
    unfold Agrees
    rw [step_reading standing.installed (List.getElem?_set_ne (Ne.symm elsewhere)).symm]
    exact ⟨rfl, rfl⟩
  · rw [alike, loses.ending] at moves
    exact absurd loses.position.symm (Nat.ne_of_gt moves)

theorem predicted_accepts {production : Nat}
    (predicted : machine.predicted? (machine.table frame.symbol) (some token) frame =
      some production) :
    frame.production = none ∧
      (machine.grammar.opening frame.symbol).first.accepts token = true := by
  obtain ⟨_, element, rest, same, unselected, found, accepted⟩ := exists_of_predicted predicted
  cases same
  exact ⟨unselected, Grammar.accepts_iff_begins.mpr ⟨element :: rest,
    lists_of_mem_table (List.mem_of_getElem? found), [], element, rest, rfl, nofun, accepted⟩⟩

theorem Loses.foreseen (loses : machine.Loses goal tokens failure)
    (there : tokens[failure.position]? = some token) {last : State}
    (rounds : machine.Rounds (machine.pushGoal goal (.initial tokens)).after last)
    (here : last.cursor = failure.position) (stack : last.stack = frame :: below)
    {production : Nat} (predicted : machine.predicted? (machine.table frame.symbol) (some token)
      frame = some production) :
    failure.Lists machine.grammar token ∧ ∃ head, machine.grammar.Conceals token head := by
  obtain ⟨unselected, accepted⟩ := predicted_accepts predicted
  obtain ⟨culprit, expected, criterion, fails, listed, accepts⟩ :=
    (loses.standing.rounds rounds).conceals stack unselected (here ▸ there) accepted
      ((ending_rounds rounds).symm.trans loses.ending) (loses.position.symm.trans here.symm)
  rw [here] at fails
  have stuck := fails.stuck
  rw [there] at stuck
  obtain ⟨_, same, offending⟩ := stuck.offends _ listed
  cases same
  exact ⟨loses.lists (fails.after_rounds rounds) listed accepts, culprit.symbol,
    (offending accepts).2⟩

/-- The step that parts the runs fails at the token, or goes by a production that the token
predicts, or passes an optional terminal. -/
theorem Loses.parted (loses : machine.Loses goal tokens failure)
    (there : tokens[failure.position]? = some token) {last : State}
    (parts : machine.Parts (tokens.set failure.position other)
      (machine.pushGoal goal (.initial tokens)).after last)
    (here : last.cursor = failure.position) (stack : last.stack = frame :: below) :
    failure.Lists machine.grammar other ∨
      ((∃ production, machine.predicted? (machine.table frame.symbol) (some token) frame =
          some production) ∧
        failure.Lists machine.grammar token ∧ ∃ head, machine.grammar.Conceals token head) ∨
      ∃ terminal, machine.element? frame = some (.optional (some (.terminal terminal))) ∧
        terminal.accepts other = true ∧ terminal.accepts token = false := by
  obtain ⟨rounds, _, _, apart⟩ := parts
  have standing := loses.standing.rounds rounds
  have looks : tokens[last.cursor]? = some token := here ▸ there
  have beside : (tokens.set failure.position other)[last.cursor]? = some other := by
    rw [here, List.getElem?_set_self (List.getElem?_eq_some_iff.mp there).1]
  have fails {expected : List Expectation} (failed : (machine.step last).result = .ok false)
      (stuck : machine.Stuck tokens[last.cursor]? frame expected) :
      machine.FailsAt tokens (machine.pushGoal goal (.initial tokens)).after failure.position
        frame expected :=
    ⟨rounds, here, stack, failed, here ▸ stuck⟩
  -- The first token predicts a production, or the other one does, or a terminal tells them apart.
  rcases standing.apart stack looks beside apart with
    ⟨production, predicted⟩ | ⟨unpredicted, production, predicted⟩ | ⟨terminal, stands, accepts⟩
  · exact .inr (.inl ⟨⟨production, predicted⟩,
      loses.foreseen there rounds here stack predicted⟩)
  · obtain ⟨unselected, accepted⟩ := predicted_accepts predicted
    obtain ⟨criterion, member, accepts⟩ := (TerminalSet.accepts_iff _ other).mp accepted
    rw [← looks] at unpredicted
    exact .inl (loses.lists (fails (standing.step_unselected stack unselected unpredicted).1
      (.unselected unselected unpredicted)) (List.mem_map_of_mem member) accepts)
  · have refused := standing.refuses stack looks stands
      ((ending_rounds rounds).symm.trans loses.ending) (loses.position.symm.trans here.symm)
    have wanted : terminal.accepts other = true :=
      accepts.resolve_left (Bool.eq_false_iff.mp refused)
    rcases stands with slot | slot
    · have mismatch : Mismatch terminal tokens[last.cursor]? := by
        intro _ same
        cases looks.symm.trans same
        exact refused
      exact .inl (loses.lists (fails (standing.step_mismatch stack slot mismatch).1
        (.terminal slot mismatch)) (List.mem_singleton_self _) wanted)
    · exact .inr (.inr ⟨terminal, slot, wanted, refused⟩)

end Loses

end Machine

namespace Parser

section Reports

variable {parser : Parser} {tokens : List Token} {failure : Failure} {token other : Token}

/-- If the run goes further with another token in the place of the one that the error is about, the
error lists a terminal that matches the other token. Or else the step at which the runs part goes by
a production that the token predicts, and the error lists a terminal that matches the token itself,
or the step passes an optional terminal that matches the other token. -/
theorem report_replaced (reports : parser.Reports tokens failure)
    (there : tokens[failure.position]? = some token)
    (moves : failure.position <
      (finish parser.machine (tokens.set failure.position other)).after.cursor) :
    failure.Lists parser.grammar other ∨ ∃ last frame below,
      parser.machine.Parts (tokens.set failure.position other) (parser.start tokens) last ∧
      last.cursor = failure.position ∧ last.stack = frame :: below ∧
      (((∃ production, parser.machine.predicted? (parser.machine.table frame.symbol) (some token)
            frame = some production) ∧
          failure.Lists parser.grammar token ∧ ∃ head, parser.grammar.Conceals token head) ∨
        ∃ terminal, parser.machine.element? frame = some (.optional (some (.terminal terminal))) ∧
          terminal.accepts other = true ∧ terminal.accepts token = false) := by
  obtain ⟨last, parts, here⟩ := reports.loses.parts moves
  obtain ⟨frame, below, stack⟩ : ∃ frame below, last.stack = frame :: below := by
    obtain ⟨_, _, filled, _⟩ := parts
    exact List.exists_cons_of_ne_nil filled
  rcases reports.loses.parted there parts here stack with lists | passes
  · exact .inl lists
  · exact .inr ⟨last, frame, below, parts, here, stack, passes⟩

theorem reports_veil_behind :
    Veil.parser.Reports (Brackets.tokens ["a", "b", "z"]) (Veil.failure 2) :=
  ⟨by decide, by cbv, by cbv, by cbv⟩

/-- Behind an `X` it is the `d` that is passed. -/
theorem report_replaced_veil :
    Veil.parser.Reports (Brackets.tokens ["a", "b", "z"]) (Veil.failure 2) ∧
      (Brackets.tokens ["a", "b", "z"])[(Veil.failure 2).position]? = some ⟨"z", "WORD", 1, 1⟩ ∧
      (Veil.failure 2).position < (finish Veil.parser.machine
        ((Brackets.tokens ["a", "b", "z"]).set 2 ⟨"d", "WORD", 1, 1⟩)).after.cursor ∧
      ∃ last frame below terminal,
        Veil.parser.machine.Parts ((Brackets.tokens ["a", "b", "z"]).set 2 ⟨"d", "WORD", 1, 1⟩)
          (Veil.parser.start (Brackets.tokens ["a", "b", "z"])) last ∧
        last.cursor = 2 ∧ last.stack = frame :: below ∧
        Veil.parser.machine.element? frame = some (.optional (some (.terminal terminal))) ∧
        terminal.accepts ⟨"d", "WORD", 1, 1⟩ = true := by
  have moves : (Veil.failure 2).position < (finish Veil.parser.machine
      ((Brackets.tokens ["a", "b", "z"]).set 2 ⟨"d", "WORD", 1, 1⟩)).after.cursor := by
    cbv
  refine ⟨reports_veil_behind, rfl, moves, ?_⟩
  rcases report_replaced reports_veil_behind rfl moves with
    lists | ⟨last, frame, below, parts, here, stack, ⟨_, lists, _⟩ | ⟨terminal, slot, wanted, _⟩⟩
  · exact absurd lists (by decide)
  · exact absurd lists (by decide)
  · exact ⟨last, frame, below, terminal, parts, here, stack, slot, wanted⟩

/-- Neither a `d` that is passed is listed, nor a `c` where a production is predicted. -/
theorem report_omits :
    (Veil.parser.parse (Brackets.tokens ["a", "b", "z"]) = .ok ⟨none, ["1:1: Syntax Error: " ++
        "Unexpected 'z' while parsing S. Expected one of: \"a\", \"b\", \"y\""]⟩ ∧
      Veil.parser.Reports (Brackets.tokens ["a", "b", "z"]) (Veil.failure 2) ∧
      2 < (finish Veil.parser.machine
        ((Brackets.tokens ["a", "b", "z"]).set 2 ⟨"d", "WORD", 1, 1⟩)).after.cursor ∧
      ¬(Veil.failure 2).Lists Veil.grammar ⟨"d", "WORD", 1, 1⟩) ∧
    Veil.parser.parse (Brackets.tokens ["b"]) = .ok ⟨none, ["1:1: Syntax Error: " ++
        "Unexpected 'b' while parsing S. Expected one of: \"a\", \"b\", \"y\""]⟩ ∧
      Veil.parser.Reports (Brackets.tokens ["b"]) (Veil.failure 0) ∧
      0 < (finish Veil.parser.machine
        ((Brackets.tokens ["b"]).set 0 ⟨"c", "WORD", 1, 1⟩)).after.cursor ∧
      ¬(Veil.failure 0).Lists Veil.grammar ⟨"c", "WORD", 1, 1⟩ := by
  refine ⟨⟨?_, reports_veil_behind, ?_, by decide⟩, ?_, reports_veil, ?_, by decide⟩
  all_goals cbv

end Reports

end Parser

end Descent
