import Mathlib
import Descent.Proofs.Brackets
import Descent.Proofs.Growth

/-! What a finished goal says about the tokens. -/

set_option autoImplicit false

namespace Descent

namespace Machine

variable {machine : Machine} {tokens : List Token} {goal : String} {state : State}

theorem run_accepted (installed : state.tokens = some tokens)
    (accepted : (machine.run state).result = .ok true) :
    ∃ tree, (machine.run state).after.result = some tree ∧
      tokens.length ≤ (machine.run state).after.cursor := by
  obtain ⟨result, after⟩ := machine.run_ending installed
  rw [result] at accepted
  rw [after]
  rcases ended : machine.ending state with ⟨_ | _, final⟩
  · rw [ended] at accepted
    cases accepted
  · rw [ended] at accepted
    simp only [verdict] at accepted ⊢
    cases found : final.result with
    | none => simp [found, Outcome.done] at accepted
    | some tree =>
      by_cases left : final.cursor < tokens.length
      · simp [found, left, Outcome.done] at accepted
      · simp only [found, left, if_false, Outcome.done]
        exact ⟨tree, rfl, Nat.le_of_not_lt left⟩

theorem run_ok_true (standing : machine.Standing tokens goal state)
    (accepted : (machine.run state).result = .ok true) :
    ∃ tree, (machine.run state).after.result = some tree ∧
      tokens.length ≤ (machine.run state).after.cursor :=
  run_accepted standing.installed accepted

/-- What goals are given is a derivation tree, whatever the order of the calls, and a
run accepts words of the language only. -/
theorem reached_derivation (known : machine.Knows goal)
    (reached : machine.Reached tokens goal state) :
    (∀ tree, state.result = some tree →
      Node.IsBranch goal tree ∧ Derivation machine.grammar tokens tree) ∧
    ((machine.run state).result = .ok true → machine.grammar.Generates goal tokens) := by
  refine ⟨(reached.growing known).result, fun accepted => ?_⟩
  obtain ⟨tree, result, beyond⟩ := run_ok_true (reached.standing known) accepted
  -- The goal leads to the end of the run as well, so that the invariants hold there.
  have standing := reached.run.standing known
  obtain ⟨branch, derivation⟩ := (reached.run.growing known).result tree result
  obtain ⟨_, tiled, start, stop⟩ := (reached.run.covering known).result tree result
  have word := derivation.generates tiled branch
  rw [start, stop, Nat.le_antisymm standing.inside beyond] at word
  simpa [List.extract] using word

theorem reached_derivation_nested :
    let state := ((Brackets.machine 3).run ((Brackets.machine 3).pushGoal "S"
      (.initial (Brackets.tokens ["a", "a", "b", "b"]))).after).after
    let inner := Node.branch "S" 1 3
      [.leaf "WORD" "a" 1 2, .branch "S" 2 2 [], .leaf "WORD" "b" 2 3]
    let tree := Node.branch "S" 0 4 [.leaf "WORD" "a" 0 1, inner, .leaf "WORD" "b" 3 4]
    state.result = some tree ∧
      Derivation Brackets.grammar (Brackets.tokens ["a", "a", "b", "b"]) tree ∧
      Brackets.grammar.Generates "S" (Brackets.tokens ["a", "a", "b", "b"]) :=
  ⟨by cbv, ((reached_derivation (Brackets.known 3) (.run .goal)).1 _ (by cbv)).2,
    (reached_derivation (Brackets.known 3) .goal).2 (by cbv)⟩

end Machine

end Descent
