import Mathlib
import Descent.Proofs.Beginnings
import Descent.Proofs.Recursion.Idle
import Descent.Proofs.Setbacks

/-! What a syntax error lists as expected.

A frame that fails at a terminal expects that terminal, which the token does not match. A frame
that fails without a production expects all that its nonterminal can begin with. The token may be
among that, for a prediction goes by the first element of a production, and the token may begin
what comes after elements that can be empty.
-/

set_option autoImplicit false

namespace Descent

namespace Grammar

/-- The token begins an element of the production that comes after some that can be empty, and the
first of these cannot begin with it. -/
def Hides (grammar : Grammar) (token : Token) (production : Production) : Prop :=
  ∃ first front element rest, production = first :: front ++ element :: rest ∧
    grammar.Vanishes (first :: front) ∧
    (grammar.openings.ofElement first).first.accepts token = false ∧
    (grammar.openings.ofElement element).first.accepts token = true

/-- The nonterminal can begin with the token, but all productions that do so hide it. -/
structure Conceals (grammar : Grammar) (token : Token) (head : String) : Prop where
  begins : ∃ production, grammar.Lists head production ∧ grammar.Begins token production
  hides : ∀ production, grammar.Lists head production → grammar.Begins token production →
    grammar.Hides token production

section Openings

variable {grammar : Grammar} {head : String} {production : Production} {criterion : Criterion}
  {token : Token}

theorem begins_of_starts {form : Form} (reading : form ∈ Production.readings production)
    (starts : grammar.openings.Starts criterion form) :
    ∃ front element rest, production = front ++ element :: rest ∧ grammar.Vanishes front ∧
      criterion ∈ (grammar.openings.ofElement element).first.criteria := by
  induction production generalizing form with
  | nil =>
    cases List.mem_singleton.mp reading
    exact starts.elim
  | cons element rest ih =>
    -- The element begins with the terminal, or it can be empty and what is behind it does.
    have behind {form : Form} (empty : (grammar.openings.ofElement element).nullable = true)
        (inner : form ∈ Production.readings rest) (starts : grammar.openings.Starts criterion form) :
        ∃ front found after, element :: rest = front ++ found :: after ∧ grammar.Vanishes front ∧
          criterion ∈ (grammar.openings.ofElement found).first.criteria := by
      obtain ⟨front, found, after, rfl, vanishes, member⟩ := ih inner starts
      exact ⟨element :: front, found, after, rfl, vanishes_cons.mpr ⟨empty, vanishes⟩, member⟩
    rcases element with symbol | (_ | symbol)
    · obtain ⟨tail, inner, rfl⟩ := List.mem_map.mp reading
      rcases OpeningTable.starts_letter.mp starts with member | ⟨empty, starts⟩
      · exact ⟨[], _, rest, rfl, nofun, member⟩
      · exact behind empty inner starts
    · exact behind rfl reading starts
    · rcases List.mem_append.mp reading with without | kept
      · exact behind rfl without starts
      · obtain ⟨tail, inner, rfl⟩ := List.mem_map.mp kept
        rcases OpeningTable.starts_letter.mp starts with member | ⟨_, starts⟩
        · exact ⟨[], _, rest, rfl, nofun, member⟩
        · exact behind rfl inner starts

theorem accepts_iff_begins : (grammar.opening head).first.accepts token = true ↔
    ∃ production, grammar.Lists head production ∧ grammar.Begins token production := by
  constructor
  · intro accepted
    obtain ⟨criterion, member, accepts⟩ := (TerminalSet.accepts_iff _ token).mp accepted
    obtain ⟨tail, derives⟩ := (grammar.mem_opening_first head criterion).mp member
    obtain ⟨production, form, listed, reading, later⟩ := exists_production_of_derives derives nofun
    obtain ⟨front, element, rest, split, vanishes, inside⟩ :=
      begins_of_starts reading (grammar.openings_full.starts later)
    exact ⟨production, listed, front, element, rest, split, vanishes,
      (TerminalSet.accepts_iff _ token).mpr ⟨criterion, inside, accepts⟩⟩
  · rintro ⟨production, listed, begins⟩
    exact begins.accepts listed

/-- What a prediction does not see is behind something that can be empty. -/
theorem Begins.hides (begins : grammar.Begins token production) {first : Element}
    {rest : Production} (split : production = first :: rest)
    (refused : (grammar.openings.ofElement first).first.accepts token = false) :
    grammar.Hides token production := by
  obtain ⟨front, element, after, same, vanishes, accepted⟩ := begins
  cases front with
  | nil =>
    cases split.symm.trans same
    cases refused.symm.trans accepted
  | cons other front =>
    cases split.symm.trans same
    exact ⟨first, front, element, after, split, vanishes, refused, accepted⟩

end Openings

end Grammar

namespace Machine

/-- In a run from the state a step fails at the place, with the frame on top, which expects this. -/
inductive FailsAt (machine : Machine) (tokens : List Token) (state : State) (position : Nat)
    (frame : Frame) (expected : List Expectation) : Prop where
  | at {last : State} {below : List Frame} (rounds : machine.Rounds state last)
      (here : last.cursor = position) (stack : last.stack = frame :: below)
      (failed : (machine.step last).result = .ok false)
      (stuck : machine.Stuck tokens[position]? frame expected)

section Rounds

variable {machine : Machine} {tokens : List Token} {goal : String} {state last after : State}
  {frame : Frame} {below : List Frame} {expected : List Expectation} {setback : Setback}

theorem FailsAt.stuck {position : Nat}
    (fails : machine.FailsAt tokens state position frame expected) :
    machine.Stuck tokens[position]? frame expected := by
  obtain ⟨_, _, _, _, stuck⟩ := fails
  exact stuck

theorem round_empty (stack : state.stack = []) : (machine.round state).result ≠ .ok true := by
  have stepped : Gives (machine.step state) _ _ := step_empty stack
  rw [(round_step stepped nofun).1]
  nofun

theorem filled_of_round (went : Gives (machine.round state) (.ok true) after) :
    state.stack ≠ [] := fun stack => round_empty stack went.1

theorem rounds_stay (stays : (machine.round state).result ≠ .ok true)
    (rounds : machine.Rounds state last) : last = state := by
  rcases Relation.ReflTransGen.cases_head rounds with rfl | ⟨next, round, _⟩
  · rfl
  · exact absurd round.1 stays

theorem Standing.rounds (standing : machine.Standing tokens goal state)
    (rounds : machine.Rounds state last) : machine.Standing tokens goal last := by
  induction rounds with
  | refl => exact standing
  | tail _ round ih =>
    rw [← round.2]
    exact ih.turns (ih.round_turns (filled_of_round round)).1

theorem ending_rounds (rounds : machine.Rounds state last) :
    machine.ending state = machine.ending last := by
  induction rounds with
  | refl => rfl
  | tail _ round ih =>
    rw [ih, ending_round (filled_of_round round), round.1, round.2]

/-- The setbacks of a loop are those of its steps. -/
theorem mem_loopSetbacks : setback ∈ machine.loopSetbacks state ↔
    ∃ last, machine.Rounds state last ∧ setback ∈ machine.stepSetbacks last := by
  have alone {state : State} (stays : (machine.round state).result ≠ .ok true) :
      setback ∈ machine.stepSetbacks state ↔
        ∃ last, machine.Rounds state last ∧ setback ∈ machine.stepSetbacks last := by
    refine ⟨fun member => ⟨state, .refl, member⟩, ?_⟩
    rintro ⟨last, rounds, member⟩
    rwa [rounds_stay stays rounds] at member
  induction state using machine.ending_induct with
  | empty state stack =>
    rw [← alone (round_empty stack), loopSetbacks_empty stack]
    unfold stepSetbacks
    rw [stack]
  | again state filled went _ ih =>
    have rest : setback ∈ machine.loopSetbacks (machine.round state).after ↔ _ := ih
    rw [loopSetbacks_round filled, went, List.mem_append, rest]
    constructor
    · rintro (⟨last, rounds, member⟩ | member)
      · exact ⟨last, .head ⟨went, rfl⟩ rounds, member⟩
      · exact ⟨state, .refl, member⟩
    · rintro ⟨last, rounds, member⟩
      rcases Relation.ReflTransGen.cases_head rounds with rfl | ⟨next, round, rounds⟩
      · exact .inr member
      · rw [← round.2] at rounds
        exact .inl ⟨last, rounds, member⟩
  | last state filled lost =>
    rw [loopSetbacks_round filled, lost]
    exact alone (by rw [lost]; nofun)
  | broken state fault filled failed =>
    rw [loopSetbacks_round filled, failed]
    exact alone (by rw [failed]; nofun)

theorem Standing.step_foreseen (standing : machine.Standing tokens goal state)
    (stack : state.stack = frame :: below) {production : Nat}
    (predicted : machine.predicted? (machine.table frame.symbol) tokens[state.cursor]? frame =
      some production) :
    (∃ after, Gives (machine.step state) (.ok true) after ∧ state.cursor < after.cursor) ∨
      (∃ token symbol origin parent, tokens[state.cursor]? = some token ∧
        (machine.grammar.opening symbol).first.accepts token = true ∧
        state.stack.length < machine.maxDepth ∧
        Gives (machine.step state) (.ok true)
          (entered (state.select frame below production) symbol origin (parent :: below))) ∨
      ∃ fault, (machine.step state).result = .error fault := by
  obtain ⟨token, element, rest, there, _, found, accepted⟩ := exists_of_predicted predicted
  have listed := (predicted?_eq_some predicted).2
  have chosen := standing.select stack listed
  have same := standing.step_predicted stack predicted listed
  have slot : machine.element? (frame.select production) = some element :=
    Option.bind_eq_some_iff.mpr ⟨element :: rest, found, rfl⟩
  have takes {terminal : Terminal} (slot : machine.element? (frame.select production) =
        some (.required (.terminal terminal)) ∨
      machine.element? (frame.select production) = some (.optional (some (.terminal terminal))))
      (accepted : (TerminalSet.single terminal).accepts token = true) :
      ∃ after, Gives (machine.step state) (.ok true) after ∧ state.cursor < after.cursor := by
    rw [TerminalSet.accepts_single] at accepted
    have shifted := chosen.step_shift rfl there slot accepted
    exact ⟨_, ⟨same.1.trans shifted.1, same.2.trans shifted.2⟩, Nat.lt_succ_self _⟩
  have height : (state.select frame below production).stack.length = state.stack.length := by
    rw [stack]
    rfl
  -- A terminal in front takes the token, and a nonterminal is pushed or does not fit.
  rcases element with (terminal | symbol) | (_ | terminal | symbol)
  · exact .inl (takes (.inl slot) accepted)
  · by_cases room : state.stack.length < machine.maxDepth
    · have called := chosen.step_enter rfl slot (.inl ⟨rfl, rfl⟩) (height ▸ room)
      exact .inr (.inl ⟨token, _, _, _, there, accepted, room, same.1.trans called.1,
        same.2.trans called.2⟩)
    · have full := chosen.step_enter_full rfl slot nofun (height ▸ Nat.le_of_not_lt room)
      exact .inr (.inr ⟨_, same.1.trans full.1⟩)
  · cases accepted
  · exact .inl (takes (.inr slot) accepted)
  · by_cases room : state.stack.length < machine.maxDepth
    · have called := chosen.step_attempt rfl slot (height ▸ room)
      exact .inr (.inl ⟨token, _, _, _, there, accepted, room, same.1.trans called.1,
        same.2.trans called.2⟩)
    · have full := chosen.step_attempt_full rfl slot (height ▸ Nat.le_of_not_lt room)
      exact .inr (.inr ⟨_, same.1.trans full.1⟩)

theorem Standing.step_stuck (standing : machine.Standing tokens goal state)
    (stack : state.stack = frame :: below) (failed : (machine.step state).result = .ok false) :
    ∃ expected, machine.Stuck tokens[state.cursor]? frame expected := by
  by_cases selected : frame.production = none
  · cases predicted : machine.predicted? (machine.table frame.symbol) tokens[state.cursor]? frame with
    | none => exact ⟨_, .unselected selected predicted⟩
    | some production =>
      rcases standing.step_foreseen stack predicted with
        ⟨_, went, _⟩ | ⟨_, _, _, _, _, _, _, went⟩ | ⟨_, broken⟩
      · cases failed.symm.trans went.1
      · cases failed.symm.trans went.1
      · cases failed.symm.trans broken
  · have decided := standing.step_selected stack selected
    rw [failed] at decided
    generalize (machine.step state).after = after at decided
    cases decided with
    | stuck same stuck =>
      cases stack.symm.trans same
      exact ⟨_, stuck⟩

theorem Stuck.wanted_eq {token : Option Token} (stuck : machine.Stuck token frame expected) :
    machine.wanted (machine.informed token frame) = expected := by
  cases stuck with
  | unselected unselected unpredicted =>
    have element : machine.element? frame = none := by
      simp [element?, current?, unselected]
    unfold informed wanted
    rw [unpredicted]
    dsimp only
    rw [element]
  | terminal slot mismatch =>
    unfold informed wanted
    rw [predicted?_selected (selected_of_element slot)]
    dsimp only
    rw [slot]

/-- The setback of a step is what the stuck frame expects. -/
theorem Standing.mem_stepSetbacks (standing : machine.Standing tokens goal state) :
    setback ∈ machine.stepSetbacks state ↔
      ∃ frame below expected, state.stack = frame :: below ∧
        (machine.step state).result = .ok false ∧
        machine.Stuck tokens[state.cursor]? frame expected ∧
        setback = ⟨state.cursor, state.symbols, expected⟩ := by
  constructor
  · intro member
    by_cases failed : (machine.step state).result = .ok false
    · obtain ⟨frame, below, stack⟩ := List.exists_cons_of_ne_nil (filled_of_step ⟨failed, rfl⟩)
      obtain ⟨expected, stuck⟩ := standing.step_stuck stack failed
      rw [stepSetbacks_eq stack standing.installed, failed, stuck.wanted_eq] at member
      exact ⟨frame, below, expected, stack, failed, stuck, List.mem_singleton.mp member⟩
    · rw [stepSetbacks_eq_nil failed] at member
      cases member
  · rintro ⟨frame, below, expected, stack, failed, stuck, rfl⟩
    rw [stepSetbacks_eq stack standing.installed, failed, stuck.wanted_eq]
    exact List.mem_singleton_self _

end Rounds

structure Loses (machine : Machine) (goal : String) (tokens : List Token) (failure : Failure) :
    Prop where
  known : machine.Knows goal
  rejected : (machine.derive goal tokens).result = .ok false
  underived : (machine.derive goal tokens).after.result = none
  recorded : (machine.derive goal tokens).after.failure = some failure

section Loses

variable {machine : Machine} {tokens : List Token} {goal : String} {failure : Failure}
  {frame : Frame} {expected : List Expectation} {token : Token}

theorem Loses.room (loses : machine.Loses goal tokens failure) : 0 < machine.maxDepth :=
  room_of_rejected loses.rejected

theorem Loses.standing (loses : machine.Loses goal tokens failure) :
    machine.Standing tokens goal (machine.pushGoal goal (.initial tokens)).after :=
  standing_goal loses.known

theorem Loses.ending (loses : machine.Loses goal tokens failure) :
    machine.ending (machine.pushGoal goal (.initial tokens)).after =
      (.ok (), (machine.derive goal tokens).after) := by
  obtain ⟨result, after⟩ := machine.run_ending loses.standing.installed
  rw [← derive_run loses.room] at result after
  rw [loses.rejected] at result
  have underived := loses.underived
  rcases ended : machine.ending (machine.pushGoal goal (.initial tokens)).after with
    ⟨fault | _, final⟩
  · rw [ended] at result
    cases result
  · rw [ended] at after
    have same : final.result = none := by
      rw [after] at underived
      dsimp only [verdict] at underived
      split at underived
      · assumption
      · rename_i tree found
        split at underived
        · obtain ⟨failure, kept⟩ := fail_eq final [tree.name] [.endOfInput]
          cases found.symm.trans ((congrArg State.result kept).symm.trans underived)
        · exact underived
    simp only [verdict, same, Outcome.done] at after
    rw [after]

/-- What the failure expects is what the frames expect that fail at its place. -/
theorem Loses.expected_iff (loses : machine.Loses goal tokens failure) (expectation : Expectation) :
    expectation ∈ failure.expected ↔ ∃ frame expected,
      machine.FailsAt tokens (machine.pushGoal goal (.initial tokens)).after failure.position frame
        expected ∧ expectation ∈ expected := by
  have start : (machine.pushGoal goal (.initial tokens)).after.failure = none := by
    rw [(pushGoal_room loses.room).2]
    rfl
  have recorded := machine.recorded_ending start
  rw [loses.ending] at recorded
  rw [(recorded.sums failure loses.recorded).expected]
  simp only [mem_loopSetbacks]
  constructor
  · rintro ⟨setback, ⟨last, rounds, member⟩, here, among⟩
    obtain ⟨frame, below, expected, stack, failed, stuck, rfl⟩ :=
      (loses.standing.rounds rounds).mem_stepSetbacks.mp member
    dsimp only at here
    rw [here] at stuck
    exact ⟨frame, expected, ⟨rounds, here, stack, failed, stuck⟩, among⟩
  · rintro ⟨frame, expected, ⟨rounds, here, stack, failed, stuck⟩, among⟩
    rw [← here] at stuck
    exact ⟨_, ⟨_, rounds, (loses.standing.rounds rounds).mem_stepSetbacks.mpr
      ⟨frame, _, expected, stack, failed, stuck, rfl⟩⟩, here, among⟩

/-- A frame expects terminals only. One that matches the token is expected by a frame without a
production, whose nonterminal conceals the token. -/
theorem Stuck.offends (stuck : machine.Stuck (some token) frame expected) :
    ∀ expectation ∈ expected, ∃ criterion, expectation = .terminal criterion ∧
      (criterion.accepts token = true →
        frame.production = none ∧ machine.grammar.Conceals token frame.symbol) := by
  intro expectation among
  cases stuck with
  | terminal slot mismatch =>
    refine ⟨_, List.mem_singleton.mp among, fun accepted => ?_⟩
    cases (mismatch token rfl).symm.trans accepted
  | unselected unselected unpredicted =>
    obtain ⟨criterion, member, rfl⟩ := List.mem_map.mp among
    refine ⟨criterion, rfl, fun accepted =>
      ⟨unselected, ?_, fun production listed begins => ?_⟩⟩
    · exact Grammar.accepts_iff_begins.mp
        ((TerminalSet.accepts_iff _ token).mpr ⟨criterion, member, accepted⟩)
    · unfold predicted? at unpredicted
      rw [unselected] at unpredicted
      have unseen := List.findIdx?_eq_none_iff.mp unpredicted production (mem_table.mpr listed)
      cases production with
      | nil =>
        obtain ⟨front, element, rest, split, _⟩ := begins
        cases front <;> cases split
      | cons first rest =>
        rw [predicts_cons] at unseen
        exact begins.hides rfl unseen

end Loses

end Machine

/-! `S` is a `c`, or an `X` and a `y` with perhaps a `d` between them. `X` is nothing, or a `b` with
perhaps an `a` before it. -/

namespace Veil

def location : Location := ⟨"veil", 1⟩

def terminal (text : String) : Terminal := .of (.lexeme text) none location

def outer : NonTerminal := ⟨0, "S", location⟩

def inner : NonTerminal := ⟨1, "X", location⟩

def rules : List Definition :=
  [⟨outer, [[.required (.terminal (terminal "c"))],
      [.required (.nonTerminal inner), .optional (some (.terminal (terminal "d"))),
        .required (.terminal (terminal "y"))]], by decide⟩,
    ⟨inner, [[], [.optional (some (.terminal (terminal "a"))),
      .required (.terminal (terminal "b"))]], by decide⟩]

def grammar : Grammar where
  name := "veil"
  start := outer
  rules := rules
  openings := OpeningTable.ofRules rules
  start_mem := by decide
  closed := by
    intro rule member called mentioned
    simp only [rules, List.mem_cons, List.not_mem_nil, or_false] at member
    rcases member with rfl | rfl <;> revert called <;> decide
  names_distinct := by decide
  openings_eq := rfl

def parser : Parser := ⟨grammar, 2⟩

def failure (position : Nat) : Failure :=
  ⟨position, ["S"], ["a", "b", "y"].map fun text => .terminal (.lexeme text)⟩

end Veil

namespace Parser

/-- The parser has no tree, and answers with an error about a failure in the middle of a rule. -/
structure Reports (parser : Parser) (tokens : List Token) (failure : Failure) : Prop where
  deep : 1 ≤ parser.maxDepth
  rejected : (finish parser.machine tokens).result = .ok false
  underived : (finish parser.machine tokens).after.result = none
  recorded : (finish parser.machine tokens).after.failure = some failure

def start (parser : Parser) (tokens : List Token) : State :=
  (parser.machine.pushGoal parser.grammar.start.name (.initial tokens)).after

section Reports

variable {parser : Parser} {tokens : List Token} {failure : Failure} {token : Token}

theorem Reports.loses (reports : parser.Reports tokens failure) :
    parser.machine.Loses parser.grammar.start.name tokens failure :=
  ⟨knows_start, reports.rejected, reports.underived, reports.recorded⟩

theorem Reports.message (reports : parser.Reports tokens failure) :
    parser.parse tokens = .ok ⟨none, [Parse.place tokens failure.position ++ ": " ++
      Parse.unexpected tokens failure.position ++ " while parsing " ++
      failure.symbols.getLastD "" ++ ". Expected one of: " ++
      ", ".intercalate failure.expectedTexts]⟩ := by
  rw [parse_failed reports.deep reports.rejected reports.recorded rfl rfl, reports.underived]
  simp only [Option.isSome_none, Bool.false_eq_true, if_false, String.append_assoc]

/-- The error lists what the frames expect that fail at the token. No terminal that a frame fails at
matches the token. Of what a frame without a production can begin with, a terminal matches it only
if the productions of the frame hide the token behind what can be empty. So none in the list
matches the token if no nonterminal conceals it. -/
theorem report_refuses (reports : parser.Reports tokens failure)
    (there : tokens[failure.position]? = some token) :
    parser.parse tokens = .ok ⟨none, [Parse.place tokens failure.position ++ ": " ++
      Parse.unexpected tokens failure.position ++ " while parsing " ++
      failure.symbols.getLastD "" ++ ". Expected one of: " ++
      ", ".intercalate failure.expectedTexts]⟩ ∧
    (∀ expectation, expectation ∈ failure.expected ↔ ∃ frame expected,
      parser.machine.FailsAt tokens (parser.start tokens) failure.position frame expected ∧
        expectation ∈ expected) ∧
    (∀ frame expected,
      parser.machine.FailsAt tokens (parser.start tokens) failure.position frame expected →
        ∀ expectation ∈ expected, ∃ criterion, expectation = .terminal criterion ∧
          (criterion.accepts token = true →
            frame.production = none ∧ parser.grammar.Conceals token frame.symbol)) ∧
    ((∀ head, ¬parser.grammar.Conceals token head) →
      ∀ expectation ∈ failure.expected, ∃ criterion, expectation = .terminal criterion ∧
        criterion.accepts token = false) := by
  have listed := reports.loses.expected_iff
  have offends {frame : Frame} {expected : List Expectation} (fails : parser.machine.FailsAt tokens
      (parser.start tokens) failure.position frame expected) :
      parser.machine.Stuck (some token) frame expected := by
    rw [← there]
    exact fails.stuck
  refine ⟨reports.message, listed, fun frame expected fails => (offends fails).offends, ?_⟩
  intro unconcealed expectation member
  obtain ⟨frame, expected, fails, among⟩ := (listed expectation).mp member
  obtain ⟨criterion, same, offending⟩ := (offends fails).offends expectation among
  exact ⟨criterion, same, Bool.eq_false_iff.mpr fun accepted =>
    unconcealed frame.symbol (offending accepted).2⟩

theorem reports_veil : Veil.parser.Reports (Brackets.tokens ["b"]) (Veil.failure 0) :=
  ⟨by decide, by cbv, by cbv, by cbv⟩

/-- What is listed though it is there is what an `X` conceals. -/
theorem report_refuses_veil :
    Veil.parser.Reports (Brackets.tokens ["b"]) (Veil.failure 0) ∧
      (Brackets.tokens ["b"])[(Veil.failure 0).position]? = some ⟨"b", "WORD", 1, 1⟩ ∧
      ∃ frame expected, Veil.parser.machine.FailsAt (Brackets.tokens ["b"])
          (Veil.parser.start (Brackets.tokens ["b"])) 0 frame expected ∧
        .terminal (.lexeme "b") ∈ expected ∧ frame.production = none ∧
        Veil.grammar.Conceals ⟨"b", "WORD", 1, 1⟩ frame.symbol := by
  obtain ⟨_, listed, offends, _⟩ := report_refuses reports_veil rfl
  obtain ⟨frame, expected, fails, among⟩ := (listed (.terminal (.lexeme "b"))).mp (by decide)
  obtain ⟨criterion, same, offending⟩ := offends frame expected fails _ among
  cases same
  exact ⟨reports_veil, rfl, frame, expected, fails, among, offending rfl⟩

/-- A "b" is unexpected, and expected by a frame that fails at it. -/
theorem report_lists_offender :
    Veil.parser.parse (Brackets.tokens ["b"]) = .ok ⟨none, ["1:1: Syntax Error: " ++
        "Unexpected 'b' while parsing S. Expected one of: \"a\", \"b\", \"y\""]⟩ ∧
      Veil.parser.Reports (Brackets.tokens ["b"]) (Veil.failure 0) ∧
      ∃ frame expected criterion, Veil.parser.machine.FailsAt (Brackets.tokens ["b"])
          (Veil.parser.start (Brackets.tokens ["b"])) 0 frame expected ∧
        .terminal criterion ∈ expected ∧ criterion.accepts ⟨"b", "WORD", 1, 1⟩ = true := by
  obtain ⟨frame, expected, fails, among⟩ :=
    (reports_veil.loses.expected_iff (.terminal (.lexeme "b"))).mp (by decide)
  exact ⟨by cbv, reports_veil, frame, expected, _, fails, among, rfl⟩

end Reports

end Parser

end Descent
