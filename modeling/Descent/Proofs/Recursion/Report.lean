import Mathlib
import Descent.Parser
import Descent.Proofs.Brackets
import Descent.Proofs.Recursion.Frames
import Descent.Proofs.Stack.Reached

/-! A goal is derived as the recursion derives it.
-/

set_option autoImplicit false

namespace Descent

namespace Machine

/-- Tokens are installed, the goal is pushed, and the machine runs. -/
def derive (machine : Machine) (goal : String) (tokens : List Token) : Outcome Bool :=
  let pushed := machine.pushGoal goal (.initial tokens)
  match pushed.result with
  | .ok () => machine.run pushed.after
  | .error fault => { pushed with result := .error fault }

theorem finish_eq_derive (machine : Machine) (tokens : List Token) :
    Parser.finish machine tokens = machine.derive machine.grammar.start.name tokens := rfl

section Report

variable {machine : Machine} {tokens : List Token} {goal : String} {state after : State}

theorem run_ended (standing : machine.Standing tokens goal state)
    (ending : machine.ending state = (.ok (), after)) :
    Gives (machine.run state) (verdict tokens after).result (verdict tokens after).after := by
  have outcome := machine.run_ending standing.installed
  rw [ending] at outcome
  exact outcome

theorem run_broken {fault : Fault} (standing : machine.Standing tokens goal state)
    (ending : machine.ending state = (.error fault, after)) :
    Gives (machine.run state) (.error fault) after := by
  have outcome := machine.run_ending standing.installed
  rw [ending] at outcome
  exact outcome

def report (outcome : Outcome Bool) : Except Fault Bool × Option Tree × Nat :=
  (outcome.result, outcome.after.result, outcome.after.cursor)

theorem report_eq {outcome : Outcome Bool} {result : Except Fault Bool}
    (gives : Gives outcome result after) :
    report outcome = (result, after.result, after.cursor) := by
  unfold report
  rw [gives.1, gives.2]

theorem verdict_some {tree : Tree} {stop : Spot tokens} (result : after.result = some tree)
    (there : after.cursor = stop) :
    report (verdict tokens after) = (Answer.derived tree stop).report := by
  unfold verdict
  rw [result]
  dsimp only
  by_cases left : after.cursor < tokens.length
  · obtain ⟨failure, recorded⟩ := fail_eq after [tree.name] [.endOfInput]
    have more : ¬ stop.val = tokens.length := by omega
    rw [if_pos left, recorded]
    simp only [report, Outcome.done, Answer.report, result, there, more, decide_false]
  · have all : stop.val = tokens.length := by omega
    rw [if_neg left]
    simp only [report, Outcome.done, Answer.report, result, there, all, decide_true]

theorem verdict_none {spot : Spot tokens} (result : after.result = none)
    (there : after.cursor = spot) :
    report (verdict tokens after) = (Answer.lost spot).report := by
  unfold verdict
  rw [result]
  simp only [report, Outcome.done, Answer.report, result, there]

/-- With the goal alone on the stack a run reports what the recursion answers. -/
theorem run_report {origin : Origin} (needed : origin.tentative = false)
    (standing : machine.Standing tokens goal state) (unfinished : state.result = none)
    {cursor : Spot tokens} (there : state.cursor = cursor)
    (stack : state.stack = [fresh goal origin cursor []]) :
    report (machine.run state) = (machine.descend tokens [] goal cursor).report := by
  have meets := descends [] cursor standing there stack
  generalize answered : machine.descend tokens [] goal cursor = answer
  rw [show path [] = [] from rfl, answered] at meets
  have verdicts {after : State} (ending : machine.ending state = (.ok (), after)) :
      report (machine.run state) = report (verdict tokens after) :=
    report_eq (run_ended standing ending)
  cases meets with
  | derived finished ending there result achieved =>
    obtain ⟨children, rfl, done, production, top, alike, current, last, rfl⟩ := achieved
    have stepped := finished.step_finish top current last
    rw [verdicts (ending.trans ((ending_step stepped).trans (ending_empty rfl)))]
    refine verdict_some ?_ there
    show some _ = some _
    rw [alike.symbol, alike.start]
    rfl
  | @lost spot after stuck ending there result _ left =>
    -- There is nothing below the goal, so that the backtrack empties the stack.
    obtain ⟨child, top, alike, spent⟩ := left
    have dropped := stuck.backtrack_below top (.inr ⟨by rw [alike.symbol]; exact spent, by
      rw [alike.origin]; exact needed⟩)
    have emptied := machine.backtrack_empty (show (popped after child []).stack = [] from rfl)
    rw [verdicts (ending.trans ((afterwards_congr dropped).trans (afterwards_false emptied)))]
    exact verdict_none (result.trans unfinished) there
  | hopeless ending there result =>
    rw [verdicts ending]
    exact verdict_none (result.trans unfinished) there
  | overflow ending there result =>
    rw [report_eq (run_broken standing ending), result.trans unfinished, there]
    rfl

theorem derive_full (full : machine.maxDepth = 0) :
    ∃ exceeded, (machine.derive goal tokens).result = .error (.depthExceeded exceeded) := by
  have pushed : Gives (machine.pushGoal goal (.initial tokens)) _ _ := pushGoal_full full
  unfold derive
  dsimp only
  rw [pushed.1]
  exact ⟨_, rfl⟩

theorem derive_run (room : 0 < machine.maxDepth) :
    machine.derive goal tokens = machine.run (machine.pushGoal goal (.initial tokens)).after := by
  have pushed : Gives (machine.pushGoal goal (.initial tokens)) _ _ := pushGoal_room room
  unfold derive
  dsimp only
  rw [pushed.1]

theorem derive_room (room : 0 < machine.maxDepth) :
    machine.derive goal tokens = machine.run (entered (.initial tokens) goal .goal []) := by
  rw [derive_run room, (pushGoal_room room).2]

theorem derive_reached : machine.Reached tokens goal (machine.derive goal tokens).after := by
  unfold derive
  dsimp only
  split
  · exact .run .goal
  · exact .goal

theorem derive_answer (known : machine.Knows goal) (room : 0 < machine.maxDepth) :
    report (machine.derive goal tokens) = (machine.descend tokens [] goal 0).report := by
  have standing : machine.Standing tokens goal _ := standing_goal known
  rw [(pushGoal_room room).2] at standing
  rw [derive_room room]
  exact run_report rfl standing rfl rfl rfl

/-- The machine and the recursion say the same, and have the same tree to show. -/
theorem derive_report (known : machine.Knows goal) (tokens : List Token) :
    report (machine.derive goal tokens) = (machine.descend tokens [] goal 0).report := by
  have standing : machine.Standing tokens goal _ := standing_goal known
  unfold derive
  rcases Nat.eq_zero_or_pos machine.maxDepth with full | room
  · -- The goal itself is too deep, for the machine as for the recursion.
    have pushed : Gives (machine.pushGoal goal (.initial tokens)) _ _ := pushGoal_full full
    dsimp only
    rw [pushed.1, descend, if_pos (by rw [full]; exact Nat.zero_le _)]
    unfold report
    rw [pushed.2]
    rfl
  · have pushed : Gives (machine.pushGoal goal (.initial tokens)) _ _ := pushGoal_room room
    dsimp only
    rw [pushed.2] at standing
    rw [pushed.1, pushed.2]
    exact run_report rfl standing rfl rfl rfl

/-- With room for two brackets one pair is derived, and a second opening is too deep. -/
theorem derive_report_two :
    report ((Brackets.machine 2).derive "S" (Brackets.tokens ["a", "b"])) =
        (.ok true, some (.branch "S" 0 2
          [.leaf "WORD" "a" 0 1, .branch "S" 1 1 [], .leaf "WORD" "b" 1 2]), 2) ∧
      report ((Brackets.machine 2).derive "S" (Brackets.tokens ["a", "a"])) =
        (.error (.depthExceeded ⟨2, 2, ["S", "S"]⟩), none, 2) :=
  ⟨(derive_report (Brackets.known 2) _).trans (by cbv),
    (derive_report (Brackets.known 2) _).trans (by cbv)⟩

end Report

end Machine

end Descent
