import Descent.Proofs.Stack.Reached

/-! Where a lost run stops, and what is on record then.

The loop of a run that derives nothing ends with a frame at a terminal that the next token does
not match. A frame without a production fails as well, but a backtrack has a production for it.
The failure on record is never beyond the cursor, so that the last one joins it or replaces it.
-/

set_option autoImplicit false

namespace Descent

structure Failure.Names (failure : Failure) (cursor : Nat) (frame : Frame) (terminal : Terminal) :
    Prop where
  position : failure.position = cursor
  symbols : failure.symbols.getLast? = some frame.symbol
  expected : .terminal terminal.criterion ∈ failure.expected

namespace State

/-- No failure is on record for a place beyond the cursor. -/
def Behind (state : State) : Prop :=
  ∀ failure, state.failure = some failure → failure.position ≤ state.cursor

variable {state : State}

/-- A failure at the cursor goes on record, with all that was expected. -/
theorem Behind.fail (behind : state.Behind) (symbols : List String) (expected : List Expectation) :
    ∃ failure, state.fail symbols expected = { state with failure := some failure } ∧
      failure.position = state.cursor ∧ failure.symbols = symbols ∧
      ∀ expectation ∈ expected, expectation ∈ failure.expected := by
  unfold State.fail
  cases recorded : state.failure with
  | none => exact ⟨_, rfl, rfl, rfl, fun _ member => List.mem_eraseDups.mpr member⟩
  | some failure =>
    dsimp only
    rcases Nat.lt_or_eq_of_le (behind failure recorded) with before | here
    · rw [if_pos before]
      exact ⟨_, rfl, rfl, rfl, fun _ member => List.mem_eraseDups.mpr member⟩
    · rw [if_neg (Nat.not_lt_of_le (Nat.le_of_eq here.symm)), if_pos here]
      refine ⟨_, rfl, here, rfl, fun expectation member => ?_⟩
      by_cases known : expectation ∈ failure.expected
      · exact List.mem_append_left _ known
      · exact List.mem_append_right _ (by simp [known, member])

end State

namespace Machine

variable {machine : Machine} {tokens : List Token} {goal : String} {state before after : State}

theorem Turn.behind (turn : machine.Turn tokens before after) (behind : before.Behind) :
    after.Behind := by
  cases turn with
  | shift => exact fun failure recorded => Nat.le_succ_of_le (behind failure recorded)
  | fail | leftover =>
    obtain ⟨failure, same, position, _⟩ := behind.fail _ _
    rw [same]
    intro other recorded
    cases recorded
    exact Nat.le_of_eq position
  | _ => exact behind

theorem Turns.behind (turns : machine.Turns tokens before after) (behind : before.Behind) :
    after.Behind := by
  induction turns with
  | refl => exact behind
  | tail _ turn ih => exact turn.behind ih

/-- Rounds of a run, one after the other, each of which lets the run go on. -/
abbrev Rounds (machine : Machine) : State → State → Prop :=
  Relation.ReflTransGen fun before after => Gives (machine.round before) (.ok true) after

/-- The last round of a lost run. The step fails, and leaves a frame on top that stands at a
terminal which the token does not match. The backtrack has nothing else to try. -/
structure Stops (machine : Machine) (tokens : List Token) (state : State) (frame : Frame)
    (terminal : Terminal) : Prop where
  failed : (machine.step state).result = .ok false
  top : (machine.step state).after.stack.head? = some frame
  slot : machine.element? frame = some (.required (.terminal terminal))
  mismatch : Mismatch terminal tokens[state.cursor]?
  lost : (machine.backtrack (machine.step state).after).result = .ok false

section Round

theorem fail_stack (state : State) (symbols : List String) (expected : List Expectation) :
    (state.fail symbols expected).stack = state.stack := by
  obtain ⟨failure, same⟩ := fail_eq state symbols expected
  rw [same]

theorem Standing.round_live (standing : machine.Standing tokens goal state)
    (filled : state.stack ≠ []) (went : (machine.round state).result = .ok true) :
    (machine.round state).after.Live := by
  obtain ⟨frame, below, stack⟩ := List.exists_cons_of_ne_nil filled
  by_cases failed : (machine.step state).result = .ok false
  · obtain ⟨result, reached⟩ := round_backtrack ⟨failed, rfl⟩
    rw [result] at went
    rw [reached]
    have stuck := standing.turns (standing.step_turns stack).1
    obtain ⟨_, ⟨_, left⟩ | ⟨lost, _⟩⟩ := stuck.backtrack_decided
    · exact .inl left
    · rw [lost] at went
      cases went
  · obtain ⟨result, reached⟩ := round_step (.self (machine.step state)) failed
    rw [result] at went
    rw [reached]
    obtain ⟨held, _, _, decided⟩ := standing.step_decided stack
    rw [went] at decided
    cases decided with
    | moved _ live => exact live

/-- There is always a production for a frame that has none. -/
theorem Standing.backtrack_unselected (standing : machine.Standing tokens goal state)
    {frame : Frame} {below : List Frame} (stack : state.stack = frame :: below)
    (unselected : frame.production = none) : (machine.backtrack state).result = .ok true := by
  have more : frame.nextProduction < (machine.table frame.symbol).length := by
    unfold Frame.nextProduction
    rw [unselected]
    exact List.length_pos_of_ne_nil (table_ne_nil (standing.top_upright stack).known)
  exact (standing.backtrack_retry stack ((standing.top_poised stack).unmoved unselected) more).1

theorem Standing.stuck_lost (standing : machine.Standing tokens goal state) {frame : Frame}
    {below : List Frame} {expected : List Expectation} (stack : state.stack = frame :: below)
    (stuck : machine.Stuck tokens[state.cursor]? frame expected)
    (lost : (machine.backtrack (state.fail state.symbols expected)).result = .ok false) :
    ∃ terminal, machine.element? frame = some (.required (.terminal terminal)) ∧
      Mismatch terminal tokens[state.cursor]? ∧ expected = [.terminal terminal.criterion] := by
  cases stuck with
  | unselected unselected =>
    have failed := standing.fail state.symbols (machine.expectations frame.symbol)
    have found := failed.backtrack_unselected ((fail_stack _ _ _).trans stack) unselected
    cases found.symm.trans lost
  | terminal slot mismatch => exact ⟨_, slot, mismatch, rfl⟩

theorem Standing.round_stops (standing : machine.Standing tokens goal state)
    (behind : state.Behind) (filled : state.stack ≠ [])
    (lost : (machine.round state).result = .ok false) :
    ∃ frame terminal failure, machine.Stops tokens state frame terminal ∧
      (machine.round state).after.cursor = state.cursor ∧
      (machine.round state).after.failure = some failure ∧
      failure.Names state.cursor frame terminal := by
  obtain ⟨_, _, stack⟩ := List.exists_cons_of_ne_nil filled
  obtain ⟨failed, dropped⟩ := backtrack_of_round lost
  obtain ⟨held, turns, cursor, decided⟩ := standing.step_decided stack
  have stepped := Gives.self (machine.step state)
  rw [failed] at decided stepped
  generalize (machine.step state).after = fallen at decided stepped dropped
  cases decided with
  | @stuck frame below expected top stuck =>
    have holding := standing.turns turns
    obtain ⟨terminal, slot, mismatch, rfl⟩ := holding.stuck_lost top stuck dropped.1
    obtain ⟨failure, same, position, symbols, listed⟩ :=
      (turns.behind behind).fail held.symbols [.terminal terminal.criterion]
    obtain ⟨_, ⟨found, _⟩ | ⟨_, emptied⟩⟩ := (holding.fail held.symbols _).backtrack_decided
    · cases found.symm.trans dropped.1
    rw [dropped.2, same] at emptied
    refine ⟨frame, terminal, failure, ⟨failed, ?_, slot, cursor ▸ mismatch, ?_⟩, ?_, ?_,
      position.trans cursor, ?_, listed _ (List.mem_singleton_self _)⟩
    · rw [stepped.2, fail_stack, top, List.head?_cons]
    · rw [stepped.2, dropped.1]
    · rw [emptied]
      exact cursor
    · rw [emptied]
    · rw [symbols, State.symbols, top, List.map_cons, List.reverse_cons, List.getLast?_concat]

end Round

/-- A loop that leaves no result stops at a terminal, and the failure on record says so. -/
theorem Standing.ending_stops (standing : machine.Standing tokens goal state)
    (behind : state.Behind) (live : state.Live)
    (ending : machine.ending state = (.ok (), after)) (unfinished : after.result = none) :
    ∃ last frame terminal failure, machine.Rounds state last ∧
      machine.Stops tokens last frame terminal ∧ after.cursor = last.cursor ∧
      after.failure = some failure ∧ failure.Names last.cursor frame terminal := by
  induction state using machine.ending_induct with
  | empty state stack ended =>
    cases ended.symm.trans ending
    rcases live with filled | finished
    · exact absurd stack filled
    · exact absurd unfinished finished
  | again state filled went ended ih =>
    obtain ⟨turns, _⟩ := standing.round_turns filled
    obtain ⟨last, frame, terminal, failure, rounds, stops⟩ := ih (standing.turns turns)
      (turns.behind behind) (standing.round_live filled went) (ended.symm.trans ending)
    exact ⟨last, frame, terminal, failure, .head ⟨went, rfl⟩ rounds, stops⟩
  | last state filled lost ended =>
    cases ended.symm.trans ending
    obtain ⟨frame, terminal, failure, stops⟩ := standing.round_stops behind filled lost
    exact ⟨state, frame, terminal, failure, .refl, stops⟩
  | broken state fault filled failed ended =>
    cases ended.symm.trans ending

end Machine

end Descent
