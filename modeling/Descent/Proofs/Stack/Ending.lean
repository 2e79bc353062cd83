import Descent.Machine.Run
import Descent.Proofs.Stack.Step

/-! How the loop of a run ends, the log apart, by the first step or backtrack of it. -/

set_option autoImplicit false

namespace Descent

namespace Machine

/-- The fault that ends the loop, if one does, and the state in which it ends. -/
def ending (machine : Machine) (state : State) : Except Fault Unit × State :=
  ((machine.exhaust state []).result, (machine.exhaust state []).after)

section Round

variable {machine : Machine} {state : State}

theorem exhaust_eq (machine : Machine) (state : State) (earlier : List Record) :
    machine.exhaust state earlier =
      if state.stack.isEmpty then ⟨.ok (), state, earlier.reverse⟩
      else
        match (machine.round state).result with
        | .ok true =>
          machine.exhaust (machine.round state).after
            ((machine.round state).records.reverse ++ earlier)
        | .ok false =>
          ⟨.ok (), (machine.round state).after, earlier.reverse ++ (machine.round state).records⟩
        | .error fault =>
          ⟨.error fault, (machine.round state).after,
            earlier.reverse ++ (machine.round state).records⟩ := by
  rw [exhaust]
  split
  · rfl
  · split
    · rename_i found
      simp only [found]
    · rename_i found
      simp only [found]
    · rename_i found
      simp only [found]

-- The loop carries its log along, so that calls of it from one state differ by what was
-- logged before. Proofs compare runs through `ending`, which has no log.
/-- The log so far has no say in how the loop ends. -/
theorem exhaust_ending (machine : Machine) (state : State) (earlier : List Record) :
    ((machine.exhaust state earlier).result, (machine.exhaust state earlier).after) =
      machine.ending state := by
  have same (other : List Record) :
      ((machine.exhaust state earlier).result, (machine.exhaust state earlier).after) =
        ((machine.exhaust state other).result, (machine.exhaust state other).after) := by
    induction state, earlier using exhaust.induct machine generalizing other with
    | case1 state earlier empty =>
      rw [exhaust_eq, if_pos empty, exhaust_eq machine state other, if_pos empty]
    | case2 state earlier filled after records outcome _ ih =>
      rw [exhaust_eq, exhaust_eq machine state other, if_neg filled, if_neg filled, outcome]
      exact ih _
    | case3 state earlier filled after records outcome =>
      rw [exhaust_eq, exhaust_eq machine state other, if_neg filled, if_neg filled, outcome]
    | case4 state earlier filled fault after records outcome =>
      rw [exhaust_eq, exhaust_eq machine state other, if_neg filled, if_neg filled, outcome]
  exact same []

theorem ending_empty (stack : state.stack = []) : machine.ending state = (.ok (), state) := by
  unfold ending
  rw [exhaust_eq, if_pos (by rw [stack]; rfl)]

theorem ending_round (filled : state.stack ≠ []) :
    machine.ending state =
      match (machine.round state).result with
      | .ok true => machine.ending (machine.round state).after
      | .ok false => (.ok (), (machine.round state).after)
      | .error fault => (.error fault, (machine.round state).after) := by
  unfold ending
  rw [exhaust_eq, if_neg (by simpa using filled)]
  cases (machine.round state).result with
  | error fault => rfl
  | ok value =>
    cases value with
    | false => rfl
    | true => exact machine.exhaust_ending _ _

-- The log of the loop is arbitrary, and nothing that is proved by this mentions it.
/-- The rounds of the loop, from the last of them back. -/
theorem ending_induct (machine : Machine) {motive : State → Prop}
    (empty : ∀ state, state.stack = [] → machine.ending state = (.ok (), state) → motive state)
    (again : ∀ state, state.stack ≠ [] → (machine.round state).result = .ok true →
      machine.ending state = machine.ending (machine.round state).after →
        motive (machine.round state).after → motive state)
    (last : ∀ state, state.stack ≠ [] → (machine.round state).result = .ok false →
      machine.ending state = (.ok (), (machine.round state).after) → motive state)
    (broken : ∀ state fault, state.stack ≠ [] → (machine.round state).result = .error fault →
      machine.ending state = (.error fault, (machine.round state).after) → motive state)
    (state : State) : motive state := by
  induction state, ([] : List Record) using exhaust.induct machine with
  | case1 state _ stack =>
    exact empty state (List.isEmpty_iff.mp stack) (ending_empty (List.isEmpty_iff.mp stack))
  | case2 state _ filled after records outcome _ ih =>
    have open_ : state.stack ≠ [] := by simpa using filled
    have ended : machine.ending state = _ := ending_round open_
    rw [outcome] at ended
    exact again state open_ (by rw [outcome]) (by rw [ended, outcome]) (by rw [outcome]; exact ih)
  | case3 state _ filled after records outcome =>
    have open_ : state.stack ≠ [] := by simpa using filled
    have ended : machine.ending state = _ := ending_round open_
    rw [outcome] at ended
    exact last state open_ (by rw [outcome]) (by rw [ended, outcome])
  | case4 state _ filled fault after records outcome =>
    have open_ : state.stack ≠ [] := by simpa using filled
    have ended : machine.ending state = _ := ending_round open_
    rw [outcome] at ended
    exact broken state fault open_ (by rw [outcome]) (by rw [ended, outcome])

end Round

section Calls

variable {machine : Machine} {state stuck after : State}

theorem filled_of_step {value : Bool} (stepped : Gives (machine.step state) (.ok value) after) :
    state.stack ≠ [] := by
  intro stack
  have broken := stepped.1
  unfold step at broken
  rw [stack] at broken
  cases broken

theorem round_step {result : Except Fault Bool} (stepped : Gives (machine.step state) result after)
    (decided : result ≠ .ok false) : Gives (machine.round state) result after := by
  unfold round
  dsimp only
  split
  · rename_i failed
    exact absurd (stepped.1.symm.trans failed) decided
  · exact stepped

theorem round_backtrack (stepped : Gives (machine.step state) (.ok false) stuck) :
    Gives (machine.round state) (machine.backtrack stuck).result
      (machine.backtrack stuck).after := by
  unfold round
  dsimp only
  rw [stepped.1, stepped.2]
  exact ⟨rfl, rfl⟩

theorem backtrack_of_round (lost : (machine.round state).result = .ok false) :
    (machine.step state).result = .ok false ∧
      Gives (machine.backtrack (machine.step state).after) (.ok false)
        (machine.round state).after := by
  by_cases failed : (machine.step state).result = .ok false
  · obtain ⟨result, reached⟩ := round_backtrack ⟨failed, rfl⟩
    exact ⟨failed, result.symm.trans lost, reached.symm⟩
  · obtain ⟨result, _⟩ := round_step (.self (machine.step state)) failed
    exact absurd (result.symm.trans lost) failed

def afterwards (machine : Machine) (stuck : State) : Except Fault Unit × State :=
  match (machine.backtrack stuck).result with
  | .ok true => machine.ending (machine.backtrack stuck).after
  | .ok false => (.ok (), (machine.backtrack stuck).after)
  | .error fault => (.error fault, (machine.backtrack stuck).after)

theorem ending_step (stepped : Gives (machine.step state) (.ok true) after) :
    machine.ending state = machine.ending after := by
  obtain ⟨result, reached⟩ := round_step stepped nofun
  rw [ending_round (filled_of_step stepped), result, reached]

theorem ending_stuck (stepped : Gives (machine.step state) (.ok false) stuck) :
    machine.ending state = machine.afterwards stuck := by
  obtain ⟨result, reached⟩ := round_backtrack stepped
  rw [ending_round (filled_of_step stepped), result, reached]
  rfl

theorem ending_fault {fault : Fault} (filled : state.stack ≠ [])
    (stepped : Gives (machine.step state) (.error fault) after) :
    machine.ending state = (.error fault, after) := by
  obtain ⟨result, reached⟩ := round_step stepped nofun
  rw [ending_round filled, result, reached]

theorem ending_congr {other : State} (filled : state.stack ≠ []) (others : other.stack ≠ [])
    (same : Gives (machine.step state) (machine.step other).result (machine.step other).after) :
    machine.ending state = machine.ending other := by
  have stepped := Gives.self (machine.step other)
  cases result : (machine.step other).result with
  | error fault =>
    rw [result] at same stepped
    rw [ending_fault filled same, ending_fault others stepped]
  | ok value =>
    rw [result] at same stepped
    cases value with
    | true => rw [ending_step same, ending_step stepped]
    | false => rw [ending_stuck same, ending_stuck stepped]

theorem afterwards_true (found : Gives (machine.backtrack stuck) (.ok true) after) :
    machine.afterwards stuck = machine.ending after := by
  unfold afterwards
  rw [found.1, found.2]

theorem afterwards_false (lost : Gives (machine.backtrack stuck) (.ok false) after) :
    machine.afterwards stuck = (.ok (), after) := by
  unfold afterwards
  rw [lost.1, lost.2]

theorem afterwards_congr (below : Gives (machine.backtrack stuck)
    (machine.backtrack after).result (machine.backtrack after).after) :
    machine.afterwards stuck = machine.afterwards after := by
  unfold afterwards
  rw [below.1, below.2]

/-- A run is its loop, and a verdict on where the loop ended. -/
theorem run_ending (machine : Machine) {state : State} {tokens : List Token}
    (installed : state.tokens = some tokens) :
    Gives (machine.run state)
      (match machine.ending state with
        | (.ok (), after) => (verdict tokens after).result
        | (.error fault, _) => .error fault)
      (match machine.ending state with
        | (.ok (), after) => (verdict tokens after).after
        | (.error _, after) => after) := by
  unfold run ending
  rw [installed]
  dsimp only
  cases machine.exhaust state [] with
  | mk result after records =>
    cases result with
    | ok => exact ⟨rfl, rfl⟩
    | error fault => exact ⟨rfl, rfl⟩

theorem Standing.round_turns {tokens : List Token} {goal : String}
    (standing : machine.Standing tokens goal state) (filled : state.stack ≠ []) :
    machine.Turns tokens state (machine.round state).after ∧
      Sound (machine.round state).result ∧
      ((machine.round state).result = .ok false → (machine.round state).after.stack = []) := by
  obtain ⟨frame, below, stack⟩ := List.exists_cons_of_ne_nil filled
  obtain ⟨turns, sound⟩ := standing.step_turns stack
  by_cases failed : (machine.step state).result = .ok false
  · obtain ⟨result, after⟩ := round_backtrack ⟨failed, rfl⟩
    obtain ⟨back, answer⟩ := (standing.turns turns).backtrack_turns
    rw [result, after]
    refine ⟨turns.trans back, ?_, ?_⟩
    · rcases answer with found | ⟨lost, _⟩
      · exact .inl ⟨true, found⟩
      · exact .inl ⟨false, lost⟩
    · intro lost
      rcases answer with found | ⟨_, emptied⟩
      · rw [found] at lost
        cases lost
      · exact emptied
  · obtain ⟨result, after⟩ := round_step (.self (machine.step state)) failed
    rw [result, after]
    exact ⟨turns, sound, fun lost => absurd lost failed⟩

/-- The loop is made of turns, breaks off only at a full stack, and else leaves the
stack empty. -/
theorem Standing.ending_turns {tokens : List Token} {goal : String}
    (standing : machine.Standing tokens goal state) :
    machine.Turns tokens state (machine.ending state).2 ∧
      Sound (machine.ending state).1 ∧
      ((machine.ending state).1 = .ok () → (machine.ending state).2.stack = []) := by
  induction state using machine.ending_induct with
  | empty state stack ended =>
    rw [ended]
    exact ⟨.refl, .inl ⟨_, rfl⟩, fun _ => stack⟩
  | again state filled _ ended ih =>
    obtain ⟨turns, _⟩ := standing.round_turns filled
    obtain ⟨rest, answer⟩ := ih (standing.turns turns)
    rw [ended]
    exact ⟨turns.trans rest, answer⟩
  | last state filled lost ended =>
    obtain ⟨turns, _, emptied⟩ := standing.round_turns filled
    rw [ended]
    exact ⟨turns, .inl ⟨_, rfl⟩, fun _ => emptied lost⟩
  | broken state fault filled failed ended =>
    obtain ⟨turns, sound, _⟩ := standing.round_turns filled
    rw [failed] at sound
    rw [ended]
    rcases sound with ⟨value, answer⟩ | ⟨exceeded, deep⟩
    · cases answer
    · cases deep
      exact ⟨turns, .inr ⟨exceeded, rfl⟩, nofun⟩

theorem Standing.run_turns {tokens : List Token} {goal : String}
    (standing : machine.Standing tokens goal state) :
    machine.Turns tokens state (machine.run state).after := by
  obtain ⟨turns, _, emptied⟩ := standing.ending_turns
  obtain ⟨_, after⟩ := machine.run_ending standing.installed
  rw [after]
  cases ended : machine.ending state with
  | mk result final =>
    rw [ended] at turns emptied
    cases result with
    | error fault => exact turns
    | ok value =>
      have stack := emptied rfl
      dsimp only [verdict]
      split
      · exact turns
      · rename_i tree found
        split
        · rename_i left
          exact turns.tail (.leftover stack found left)
        · exact turns

end Calls

end Machine

end Descent
