import Descent.Proofs.Lookahead

/-! What one tick does to the stack.

It touches the frame on top, or takes it away and touches the one below. A frame further down
stays as it is, and keeps its production for as long as the machine does not backtrack to it.
-/

set_option autoImplicit false

namespace Descent

namespace Machine

/-- A later stage of a frame that has the same production, if the earlier had one. -/
structure Sequel (before after : Frame) : Prop extends Alike before after where
  kept : before.production ≠ none → after.production = before.production

namespace Sequel

variable {frame other : Frame}

theorem refl (frame : Frame) : Sequel frame frame := ⟨.refl frame, fun _ => rfl⟩

theorem trans {last : Frame} (left : Sequel frame other) (right : Sequel other last) :
    Sequel frame last := by
  refine ⟨left.toAlike.trans right.toAlike, fun selected => ?_⟩
  have kept := left.kept selected
  exact (right.kept (by rw [kept]; exact selected)).trans kept

theorem of_production (alike : Alike frame other) (same : other.production = frame.production) :
    Sequel frame other := ⟨alike, fun _ => same⟩

end Sequel

/-- What becomes of a stack in one tick, unless a backtrack selects a production. -/
inductive Reshaped : List Frame → List Frame → Prop where
  | refl {stack : List Frame} : Reshaped stack stack
  | replace {frame other : Frame} {below : List Frame} (sequel : Sequel frame other) :
      Reshaped (frame :: below) (other :: below)
  | push {child frame other : Frame} {below : List Frame} (sequel : Sequel frame other) :
      Reshaped (frame :: below) (child :: other :: below)
  | pop {frame : Frame} {below : List Frame} : Reshaped (frame :: below) below
  | join {frame parent other : Frame} {below : List Frame} (sequel : Sequel parent other) :
      Reshaped (frame :: parent :: below) (other :: below)

section Reshaped

variable {machine : Machine} {state : State} {frame other held : Frame}
  {stack after above below : List Frame}

theorem Reshaped.of_top (sequel : Sequel frame other) (reshaped : Reshaped (other :: below) after) :
    Reshaped (frame :: below) after := by
  cases reshaped with
  | refl => exact .replace sequel
  | replace next => exact .replace (sequel.trans next)
  | push next => exact .push (sequel.trans next)
  | pop => exact .pop
  | join next => exact .join next

/-- A frame goes, or it is there still with the same frames below it. -/
theorem Reshaped.under (reshaped : Reshaped stack after) (split : stack = above ++ held :: below) :
    after.length ≤ below.length ∨
      ∃ higher later, after = higher ++ later :: below ∧ Sequel held later := by
  cases reshaped with
  | refl => exact .inr ⟨above, held, split, .refl held⟩
  | replace sequel =>
    cases above with
    | nil =>
      cases split
      exact .inr ⟨[], _, rfl, sequel⟩
    | cons top above =>
      cases split
      exact .inr ⟨_ :: above, held, rfl, .refl held⟩
  | push sequel =>
    cases above with
    | nil =>
      cases split
      exact .inr ⟨[_], _, rfl, sequel⟩
    | cons top above =>
      cases split
      exact .inr ⟨_ :: _ :: above, held, rfl, .refl held⟩
  | pop =>
    cases above with
    | nil =>
      cases split
      exact .inl (Nat.le_refl _)
    | cons top above =>
      cases split
      exact .inr ⟨above, held, rfl, .refl held⟩
  | join sequel =>
    rcases above with _ | ⟨top, _ | ⟨next, above⟩⟩
    · cases split
      exact .inl (Nat.le_refl _)
    · cases split
      exact .inr ⟨[], _, rfl, sequel⟩
    · cases split
      exact .inr ⟨_ :: above, held, rfl, .refl held⟩

theorem push_reshapes (machine : Machine) (state : State) (sequel : Sequel frame other)
    (symbol : String) (origin : Origin) :
    Reshaped (frame :: below)
      (machine.push symbol origin { state with stack := other :: below }).after.stack := by
  unfold push
  dsimp only
  split
  · exact .replace sequel
  · split
    · exact .replace sequel
    · exact .push sequel

theorem stuck_stack (state : State) (expected : List Expectation) :
    (stuck state frame below expected).stack = frame :: below := by
  obtain ⟨failure, same⟩ := fail_eq { state with stack := frame :: below }
    (State.symbols { state with stack := frame :: below }) expected
  unfold stuck
  dsimp only
  rw [same]

theorem complete_reshapes (state : State) :
    Reshaped (frame :: below) (complete state frame below).after.stack := by
  unfold complete
  dsimp only
  split
  · cases below with
    | nil => exact .pop
    | cons parent rest => exact .join (.of_production (.adopt _ _ parent) rfl)
  · exact .pop

theorem perform_reshapes (machine : Machine) (state : State) (move : Move) :
    Reshaped (frame :: below) (machine.perform state frame below move).after.stack := by
  have advance : Sequel frame frame.advance := .of_production (.advance frame) rfl
  cases move with
  | complete => exact complete_reshapes state
  | shift token => exact .replace (.of_production ⟨rfl, rfl, rfl, rfl⟩ rfl)
  | leave => exact .replace advance
  | enter symbol origin =>
    have slot : Sequel frame { frame with progressed := none } :=
      .of_production ⟨rfl, rfl, rfl, rfl⟩ rfl
    unfold perform
    dsimp only
    split
    · rw [stuck_stack]
      exact .replace slot
    · exact machine.push_reshapes state slot symbol origin
  | attempt symbol =>
    unfold perform
    dsimp only
    split
    · exact machine.push_reshapes state advance symbol .optional
    · exact machine.push_reshapes state advance symbol .optional
  | stuck expected =>
    show Reshaped _ (stuck state frame below expected).stack
    rw [stuck_stack]
    exact .refl

theorem act_reshapes (machine : Machine) (productions : List Production) (token : Option Token)
    (state : State) :
    Reshaped (frame :: below) (machine.act productions token state frame below).after.stack := by
  unfold act
  split
  · rename_i production predicted
    have select : Sequel frame (frame.select production) := by
      refine ⟨.select frame production, fun selected => absurd ?_ selected⟩
      unfold predicted? at predicted
      split at predicted
      · assumption
      · cases predicted
    exact (machine.perform_reshapes _ _).of_top select
  · exact machine.perform_reshapes state _

theorem step_reshapes (machine : Machine) (state : State) :
    Reshaped state.stack (machine.step state).after.stack := by
  unfold step
  cases stack : state.stack with
  | nil =>
    dsimp only [Outcome.raise]
    rw [stack]
    exact .refl
  | cons frame below =>
    dsimp only
    cases machine.grammar.productionsOf frame.symbol with
    | error unknown =>
      dsimp only [Outcome.raise]
      rw [stack]
      exact .refl
    | ok productions =>
      cases state.tokens with
      | none =>
        dsimp only [Outcome.raise]
        rw [stack]
        exact .refl
      | some tokens => exact machine.act_reshapes productions tokens[state.cursor]? state

theorem pop_stack (stack : state.stack = frame :: below) : (pop state).after.stack = below := by
  unfold pop
  rw [stack]
  dsimp only
  split <;> rfl

/-- A pass of a backtrack selects the next production of a frame that has consumed nothing. -/
theorem pass_reshapes (machine : Machine) (state : State) :
    Reshaped state.stack (machine.pass state).state.stack ∨
      ∃ frame below, state.stack = frame :: below ∧ state.cursor ≤ frame.start ∧
        frame.nextProduction < (machine.table frame.symbol).length ∧
        machine.pass state = .stepping (state.select frame below frame.nextProduction) := by
  unfold pass
  cases stack : state.stack with
  | nil =>
    left
    show Reshaped [] state.stack
    rw [stack]
    exact .refl
  | cons frame below =>
    have popped : Reshaped (frame :: below) (pop state).after.stack := by
      rw [pop_stack stack]
      exact .pop
    dsimp only
    cases known : machine.grammar.productionsOf frame.symbol with
    | error unknown =>
      left
      show Reshaped _ state.stack
      rw [stack]
      exact .refl
    | ok productions =>
      dsimp only
      by_cases more : decide (frame.start < state.cursor) = false ∧
          frame.nextProduction < productions.length
      · rw [if_pos more]
        right
        refine ⟨frame, below, rfl, by simpa using more.1, ?_, rfl⟩
        rw [machine.table_eq known]
        exact more.2
      · rw [if_neg more]
        left
        split
        · exact popped
        · split
          · split
            · exact popped
            · exact .join (.of_production (.advance _) rfl)
            · exact popped
          · exact popped

theorem tick_reshapes (machine : Machine) (phase : Phase) :
    Reshaped phase.state.stack (machine.tick phase).state.stack ∨
      ∃ state frame below, phase = .backtracking state ∧ state.stack = frame :: below ∧
        state.cursor ≤ frame.start ∧
        frame.nextProduction < (machine.table frame.symbol).length ∧
        machine.tick phase = .stepping (state.select frame below frame.nextProduction) := by
  cases phase with
  | stepping state =>
    left
    have stepped := machine.step_reshapes state
    unfold tick
    dsimp only
    split
    · exact .refl
    · split
      · exact stepped
      · exact stepped
      · exact stepped
  | backtracking state =>
    refine (machine.pass_reshapes state).imp_right ?_
    rintro ⟨frame, below, stack, unmoved, more, passed⟩
    exact ⟨state, frame, below, rfl, stack, unmoved, more, passed⟩
  | stopped result state => exact .inl .refl

end Reshaped

end Machine

end Descent
