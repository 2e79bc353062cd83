import Descent.Proofs.Stack.Ending

/-! States that a goal leads to, by steps, backtracks and runs in any order.

A call that breaks off counts as well, with the state that it leaves behind. An
invariant of such states need only be kept by the turns that calls are made of.
-/

set_option autoImplicit false

namespace Descent

namespace Machine

inductive Reached (machine : Machine) (tokens : List Token) (goal : String) : State → Prop where
  | goal : Reached machine tokens goal (machine.pushGoal goal (.initial tokens)).after
  | step {state : State} (before : Reached machine tokens goal state) :
      Reached machine tokens goal (machine.step state).after
  | backtrack {state : State} (before : Reached machine tokens goal state) :
      Reached machine tokens goal (machine.backtrack state).after
  | run {state : State} (before : Reached machine tokens goal state) :
      Reached machine tokens goal (machine.run state).after

section Goal

variable {machine : Machine} {tokens : List Token} {goal : String}

theorem pushGoal_initial :
    machine.pushGoal goal (.initial tokens) =
      { machine.push goal .goal (.initial tokens) with
        result := (machine.push goal .goal (.initial tokens)).result.map fun _ => () } := rfl

theorem pushGoal_room (room : 0 < machine.maxDepth) :
    Gives (machine.pushGoal goal (.initial tokens)) (.ok ())
      (entered (.initial tokens) goal .goal []) := by
  have pushed : machine.push goal .goal (.initial tokens) =
      .done (entered (.initial tokens) goal .goal []) true := by
    unfold push
    exact (if_neg (by simp [State.initial, State.blank])).trans (if_neg (Nat.not_le_of_lt room))
  rw [pushGoal_initial, pushed]
  exact ⟨rfl, rfl⟩

theorem pushGoal_full (full : machine.maxDepth = 0) :
    Gives (machine.pushGoal goal (.initial tokens))
      (.error (.depthExceeded ⟨machine.maxDepth, 0, []⟩)) (.initial tokens) := by
  have pushed : machine.push goal .goal (.initial tokens) =
      .raise (.initial tokens) (.depthExceeded ⟨machine.maxDepth, 0, []⟩) := by
    unfold push
    exact (if_neg (by simp [State.initial, State.blank])).trans (if_pos (Nat.le_of_eq full))
  rw [pushGoal_initial, pushed]
  exact ⟨rfl, rfl⟩

@[elab_as_elim]
theorem pushGoal_cases {motive : State → Prop}
    (full : machine.maxDepth = 0 → motive (.initial tokens))
    (room : 0 < machine.maxDepth → motive (entered (.initial tokens) goal .goal [])) :
    motive (machine.pushGoal goal (.initial tokens)).after := by
  rcases Nat.eq_zero_or_pos machine.maxDepth with none | some
  · rw [(pushGoal_full none).2]
    exact full none
  · rw [(pushGoal_room some).2]
    exact room some

theorem standing_initial : machine.Standing tokens goal (.initial tokens) :=
  ⟨rfl, Nat.zero_le _, rfl, .empty, Nat.zero_le _, nofun⟩

theorem standing_goal (known : machine.Knows goal) :
    machine.Standing tokens goal (machine.pushGoal goal (.initial tokens)).after := by
  refine pushGoal_cases (fun _ => standing_initial) fun room => ?_
  refine ⟨rfl, Nat.zero_le _, rfl, .base (.fresh known) rfl rfl rfl rfl, room, ?_⟩
  intro top head
  cases head
  exact ⟨Nat.le_refl _, fun _ => rfl, nofun⟩

theorem step_empty {state : State} (stack : state.stack = []) :
    Gives (machine.step state) (.error .emptyStack) state := by
  unfold step
  rw [stack]
  exact ⟨rfl, rfl⟩

end Goal

structure Inert (machine : Machine) (state : State) : Prop where
  step : (machine.step state).after = state
  backtrack : (machine.backtrack state).after = state
  run : (machine.run state).after = state

section Inert

variable {machine : Machine} {tokens : List Token} {goal : String} {state : State}

theorem inert_empty (installed : state.tokens = some tokens) (stack : state.stack = [])
    (unfinished : state.result = none) : machine.Inert state := by
  constructor
  · exact (step_empty stack).2
  · exact (machine.backtrack_empty stack).2
  · obtain ⟨_, after⟩ := machine.run_ending installed
    rw [after, ending_empty stack]
    simp [verdict, unfinished, Outcome.done]

theorem step_unknown {frame : Frame} {below : List Frame} (stack : state.stack = frame :: below)
    (unknown : ¬machine.Knows frame.symbol) :
    Gives (machine.step state) (.error (.unknownSymbol (machine.grammar.unknown frame.symbol)))
      state := by
  unfold step
  rw [stack]
  simp only [Grammar.productionsOf_unknown unknown]
  exact ⟨rfl, rfl⟩

theorem inert_unknown {frame : Frame} {below : List Frame} (installed : state.tokens = some tokens)
    (stack : state.stack = frame :: below) (unknown : ¬machine.Knows frame.symbol) :
    machine.Inert state := by
  have absent := Grammar.productionsOf_unknown unknown
  have stepped := step_unknown stack unknown
  constructor
  · exact stepped.2
  · unfold backtrack unwind
    rw [stack]
    simp only [absent, Outcome.raise]
    rw [← stack]
  · obtain ⟨_, after⟩ := machine.run_ending installed
    rw [after, ending_fault (by rw [stack]; exact List.cons_ne_nil _ _) stepped]

theorem inert_goal (unknown : ¬machine.Knows goal) :
    machine.Inert (machine.pushGoal goal (.initial tokens)).after :=
  pushGoal_cases (fun _ => inert_empty rfl rfl rfl) fun _ => inert_unknown rfl rfl unknown

end Inert

/-- Turn by turn, with `Standing` known again after each, what each of them keeps goes on to
hold. -/
theorem Standing.along {machine : Machine} {tokens : List Token} {goal : String}
    {state other : State} {Holds : State → Prop} (standing : machine.Standing tokens goal state)
    (turns : machine.Turns tokens state other)
    (kept : ∀ {before after : State}, machine.Standing tokens goal before →
      machine.Turn tokens before after → Holds before → Holds after)
    (holds : Holds state) : Holds other := by
  induction turns with
  | refl => exact holds
  | tail turns turn ih => exact kept (standing.turns turns) turn ih

namespace Reached

variable {machine : Machine} {tokens : List Token} {goal : String} {state : State}

theorem standing (known : machine.Knows goal) (reached : machine.Reached tokens goal state) :
    machine.Standing tokens goal state := by
  induction reached with
  | goal => exact standing_goal known
  | @step state _ ih =>
    cases stack : state.stack with
    | nil =>
      rw [(step_empty stack).2]
      exact ih
    | cons frame below => exact ih.turns (ih.step_turns stack).1
  | backtrack _ ih => exact ih.turns ih.backtrack_turns.1
  | run _ ih => exact ih.turns ih.run_turns

theorem unchanged (inert : machine.Inert (machine.pushGoal goal (.initial tokens)).after)
    (reached : machine.Reached tokens goal state) :
    state = (machine.pushGoal goal (.initial tokens)).after := by
  induction reached with
  | goal => rfl
  | step _ ih => rw [ih, inert.step]
  | backtrack _ ih => rw [ih, inert.backtrack]
  | run _ ih => rw [ih, inert.run]

/-- What the goal begins with and every turn keeps holds of all that is reached. -/
theorem invariant {Holds : State → Prop} (known : machine.Knows goal)
    (start : Holds (machine.pushGoal goal (.initial tokens)).after)
    (kept : ∀ {before after : State}, machine.Standing tokens goal before →
      machine.Turn tokens before after → Holds before → Holds after)
    (reached : machine.Reached tokens goal state) : Holds state := by
  induction reached with
  | goal => exact start
  | @step state before ih =>
    have standing := before.standing known
    cases stack : state.stack with
    | nil =>
      rw [(step_empty stack).2]
      exact ih
    | cons frame below => exact standing.along (standing.step_turns stack).1 kept ih
  | backtrack before ih =>
    have standing := before.standing known
    exact standing.along standing.backtrack_turns.1 kept ih
  | run before ih =>
    have standing := before.standing known
    exact standing.along standing.run_turns kept ih

end Reached

end Machine

end Descent
