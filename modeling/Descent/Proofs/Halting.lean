import Mathlib.Logic.Function.Iterate
import Descent.Proofs.Brackets
import Descent.Proofs.Stack.Reached

/-! Every run ends, and only a stack that is too deep breaks it off.

The loops of a run are taken here one pass at a time, without any bound: `tick` makes
one pass of the loop over steps, or one pass of the loop inside a backtrack. From
every state some number of ticks comes to a stop, where the run stops.
-/

set_option autoImplicit false

namespace Descent

namespace Machine

inductive Phase where
  | stepping (state : State)
  | backtracking (state : State)
  | stopped (result : Except Fault Unit) (state : State)

def Phase.state : Phase → State
  | stepping state | backtracking state | stopped _ state => state

/-- One pass of the loop inside a backtrack: the frame on top does something else or
goes. -/
def pass (machine : Machine) (state : State) : Phase :=
  match state.stack with
  | [] => .stopped (.ok ()) state
  | frame :: below =>
    match machine.grammar.productionsOf frame.symbol with
    | .error unknown => .stopped (.error (.unknownSymbol unknown)) state
    | .ok productions =>
      let committed := decide (frame.start < state.cursor)
      if committed = false ∧ frame.nextProduction < productions.length then
        .stepping (state.select frame below frame.nextProduction)
      else
        match (pop state).result with
        | .error fault => .stopped (.error fault) (pop state).after
        | .ok _ =>
          if frame.origin.tentative = true ∧ committed = false then
            match frame.origin, below with
            | .again, [] => .stopped (.error .emptyStack) (pop state).after
            | .again, parent :: rest =>
              .stepping { (pop state).after with stack := parent.advance :: rest }
            | _, _ => .stepping (pop state).after
          else .backtracking (pop state).after

def resumed (outcome : Outcome Bool) : Phase :=
  match outcome.result with
  | .ok true => .stepping outcome.after
  | .ok false => .stopped (.ok ()) outcome.after
  | .error fault => .stopped (.error fault) outcome.after

-- What has stopped stays so, and more ticks than are needed do no harm.
def tick (machine : Machine) : Phase → Phase
  | .stepping state =>
    if state.stack.isEmpty then .stopped (.ok ()) state
    else
      match (machine.step state).result with
      | .ok true => .stepping (machine.step state).after
      | .ok false => .backtracking (machine.step state).after
      | .error fault => .stopped (.error fault) (machine.step state).after
  | .backtracking state => machine.pass state
  | .stopped result state => .stopped result state

section Ticks

variable {machine : Machine}

theorem resumed_state (outcome : Outcome Bool) : (resumed outcome).state = outcome.after := by
  unfold resumed
  split <;> rfl

/-- A pass decides the backtrack, or leaves it to the frames below the one on top. -/
theorem pass_backtrack (state : State) :
    machine.pass state = resumed (machine.backtrack state) ∨
      ∃ frame below, state.stack = frame :: below ∧ frame.marker ∈ state.markers ∧
        machine.pass state = .backtracking (popped state frame below) ∧
        resumed (machine.backtrack state) =
          resumed (machine.backtrack (popped state frame below)) := by
  obtain ⟨tokens, cursor, stack, markers, trace, result, failure⟩ := state
  cases stack with
  | nil => exact .inl rfl
  | cons frame below =>
    simp only [pass, backtrack, unwind, pop]
    cases machine.grammar.productionsOf frame.symbol with
    | error unknown => exact .inl rfl
    | ok productions =>
      dsimp only
      by_cases more : decide (frame.start < cursor) = false ∧
          frame.nextProduction < productions.length
      · rw [if_pos more, if_pos more]
        exact .inl rfl
      · rw [if_neg more, if_neg more]
        by_cases held : frame.marker ∈ markers
        · rw [if_pos held, if_pos held]
          by_cases absent : frame.origin.tentative = true ∧
              decide (frame.start < cursor) = false
          · rw [if_pos absent, if_pos absent]
            left
            cases frame.origin <;> cases below <;> rfl
          · rw [if_neg absent, if_neg absent]
            right
            refine ⟨frame, below, rfl, held, rfl, ?_⟩
            · have deeper := unwind_congr machine ⟨tokens, cursor, frame :: below,
                markers.erase frame.marker, trace, result, failure⟩ below below
              show resumed ((machine.unwind _ below).following _) = resumed (machine.unwind _ below)
              rw [← deeper]
              rfl
        · rw [if_neg held, if_neg held]
          exact .inl rfl

/-- The loop inside a backtrack makes at most one pass for each frame, and one more. -/
theorem ticks_backtracking (state : State) :
    ∃ passes ≤ state.stack.length,
      machine.tick^[passes + 1] (.backtracking state) = resumed (machine.backtrack state) := by
  -- Every pass but the last takes the frame on top away.
  induction stack : state.stack generalizing state with
  | nil =>
    rcases machine.pass_backtrack state with decided | ⟨frame, below, filled, _⟩
    · exact ⟨0, Nat.le_refl _, decided⟩
    · rw [stack] at filled
      cases filled
  | cons top rest ih =>
    rcases machine.pass_backtrack state with decided | ⟨frame, below, filled, _, passed, same⟩
    · exact ⟨0, Nat.zero_le _, decided⟩
    · obtain ⟨rfl, rfl⟩ : top = frame ∧ rest = below := by simpa [stack] using filled
      obtain ⟨passes, few, reached⟩ := ih (popped state top rest) rfl
      refine ⟨passes + 1, Nat.succ_le_succ few, ?_⟩
      rw [Function.iterate_succ_apply, same, ← reached]
      exact congrArg _ passed

theorem ticks_round {state : State} (filled : state.stack ≠ []) :
    ∃ ticks, machine.tick^[ticks] (.stepping state) = resumed (machine.round state) := by
  have open_ : ¬state.stack.isEmpty = true := by simpa using filled
  cases stepped : (machine.step state).result with
  | error fault =>
    obtain ⟨result, after⟩ := round_step ⟨stepped, rfl⟩ nofun
    refine ⟨1, ?_⟩
    simp only [Function.iterate_one, tick, if_neg open_, stepped, resumed, result, after]
  | ok value =>
    cases value with
    | true =>
      obtain ⟨result, after⟩ := round_step ⟨stepped, rfl⟩ nofun
      refine ⟨1, ?_⟩
      simp only [Function.iterate_one, tick, if_neg open_, stepped, resumed, result, after]
    | false =>
      obtain ⟨result, after⟩ := round_backtrack ⟨stepped, rfl⟩
      obtain ⟨passes, _, reached⟩ := machine.ticks_backtracking (machine.step state).after
      refine ⟨passes + 1 + 1, ?_⟩
      rw [Function.iterate_succ_apply, resumed, result, after]
      simp only [tick, if_neg open_, stepped]
      exact reached

/-- From every state the loop comes to the stop that the run comes to. -/
theorem ticks_ending (state : State) :
    ∃ ticks, machine.tick^[ticks] (.stepping state) =
      .stopped (machine.ending state).1 (machine.ending state).2 := by
  -- The loop with its measure is well founded, and one round of it is some ticks.
  induction state using machine.ending_induct with
  | empty state stack ended =>
    refine ⟨1, ?_⟩
    rw [ended]
    simp only [Function.iterate_one, tick, if_pos (List.isEmpty_iff.mpr stack)]
  | again state filled went ended ih =>
    obtain ⟨first, reached⟩ := machine.ticks_round filled
    obtain ⟨rest, stopped⟩ := ih
    refine ⟨rest + first, ?_⟩
    rw [Function.iterate_add_apply, reached, resumed, went, ended]
    exact stopped
  | last state filled lost ended =>
    obtain ⟨first, reached⟩ := machine.ticks_round filled
    refine ⟨first, ?_⟩
    rw [reached, resumed, lost, ended]
  | broken state fault filled failed ended =>
    obtain ⟨first, reached⟩ := machine.ticks_round filled
    refine ⟨first, ?_⟩
    rw [reached, resumed, failed, ended]

end Ticks

/-- What it means that a run from a state comes to an end, and so would a backtrack. -/
structure Halts (machine : Machine) (tokens : List Token) (state : State) : Prop where
  stops : ∃ ticks result after,
    machine.tick^[ticks] (.stepping state) = .stopped result after ∧
      (result = .ok () ∧
          Gives (machine.run state) (verdict tokens after).result (verdict tokens after).after ∨
        ∃ exceeded, result = .error (.depthExceeded exceeded) ∧
          Gives (machine.run state) (.error (.depthExceeded exceeded)) after)
  answers : (machine.run state).result = .ok true ∨ (machine.run state).result = .ok false ∨
    ∃ exceeded, (machine.run state).result = .error (.depthExceeded exceeded)
  backtrack_stops : ∃ passes ≤ state.stack.length,
    machine.tick^[passes + 1] (.backtracking state) = resumed (machine.backtrack state) ∧
      ((machine.backtrack state).result = .ok true ∨
        (machine.backtrack state).result = .ok false)

theorem verdict_ok (tokens : List Token) (state : State) :
    (verdict tokens state).result = .ok true ∨ (verdict tokens state).result = .ok false := by
  unfold verdict
  split
  · exact .inr rfl
  · split
    · exact .inr rfl
    · exact .inl rfl

/-- From the goal, and from all that steps, backtracks and runs make of it, a run ends
with an answer or with a stack that is too deep. -/
theorem run_halts {machine : Machine} {tokens : List Token} {goal : String} {state : State}
    (known : machine.Knows goal) (reached : machine.Reached tokens goal state) :
    machine.Halts tokens state := by
  have standing := reached.standing known
  obtain ⟨_, sound, _⟩ := standing.ending_turns
  obtain ⟨ticks, stopped⟩ := machine.ticks_ending state
  have outcome := machine.run_ending standing.installed
  have decided : (machine.ending state).1 = .ok () ∧
        Gives (machine.run state) (verdict tokens (machine.ending state).2).result
          (verdict tokens (machine.ending state).2).after ∨
      ∃ exceeded, (machine.ending state).1 = .error (.depthExceeded exceeded) ∧
        Gives (machine.run state) (.error (.depthExceeded exceeded)) (machine.ending state).2 := by
    rcases sound with ⟨⟨⟩, answer⟩ | ⟨exceeded, deep⟩
    · rw [show machine.ending state = (.ok (), (machine.ending state).2) from
        Prod.ext answer rfl] at outcome
      exact .inl ⟨answer, outcome⟩
    · rw [show machine.ending state =
        (.error (.depthExceeded exceeded), (machine.ending state).2) from
          Prod.ext deep rfl] at outcome
      exact .inr ⟨exceeded, deep, outcome⟩
  refine ⟨⟨ticks, _, _, stopped, decided⟩, ?_, ?_⟩
  · rcases decided with ⟨_, answered, _⟩ | ⟨exceeded, _, broken, _⟩
    · rw [answered]
      exact (verdict_ok tokens _).imp_right .inl
    · exact .inr (.inr ⟨exceeded, broken⟩)
  · obtain ⟨passes, few, spent⟩ := machine.ticks_backtracking state
    exact ⟨passes, few, spent, standing.backtrack_turns.2.imp_right And.left⟩

/-- One open bracket fills a stack of one, whether the step is made again or not. -/
theorem run_halts_full_stack :
    let state := ((Brackets.machine 1).step ((Brackets.machine 1).step
      ((Brackets.machine 1).pushGoal "S" (.initial (Brackets.tokens ["a", "b"]))).after).after)
    state.result = .error (.depthExceeded ⟨1, 1, ["S"]⟩) ∧
      (Brackets.machine 1).Knows "S" ∧
      (Brackets.machine 1).Reached (Brackets.tokens ["a", "b"]) "S" state.after ∧
      (Brackets.machine 1).Halts (Brackets.tokens ["a", "b"]) state.after :=
  ⟨rfl, Brackets.known 1, .step (.step .goal), run_halts (Brackets.known 1) (.step (.step .goal))⟩

end Machine

end Descent
