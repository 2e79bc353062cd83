import Descent.Proofs.Acceptance

/-! No token is lost, doubled or moved on the way into a tree.

The leaves of a tree that covers a range of the tokens are the tokens of that range.
-/

set_option autoImplicit false

namespace Descent

namespace Node

variable {Position : Type}

mutual

def leaves : Node Position → List (Node Position)
  | leaf kind lexeme start stop => [leaf kind lexeme start stop]
  | branch _ _ _ children => leavesAll children

def leavesAll : List (Node Position) → List (Node Position)
  | [] => []
  | node :: rest => node.leaves ++ leavesAll rest

end

end Node

def planted (tokens : List Token) : List Tree :=
  tokens.mapIdx fun position token => .leaf token.kind token.lexeme position (position + 1)

section Leaves

variable {tokens : List Token}

theorem planted_token {position : Nat} {token : Token} (there : tokens[position]? = some token) :
    (planted tokens).extract position (position + 1) =
      [.leaf token.kind token.lexeme position (position + 1)] := by
  apply extract_single
  simp [planted, there]

theorem Tiles.leavesAll {start stop : Nat} {trees : List Tree} (tiles : Tiles start trees stop)
    (tiled : ∀ tree ∈ trees, Tiled tokens tree)
    (leaves : ∀ tree ∈ trees, tree.leaves = (planted tokens).extract tree.start tree.stop) :
    Node.leavesAll trees = (planted tokens).extract start stop := by
  induction trees generalizing start with
  | nil =>
    cases tiles
    exact (extract_self _).symm
  | cons tree rest ih =>
    obtain ⟨rfl, tiles⟩ := tiles
    obtain ⟨first, later⟩ := List.forall_mem_cons.mp tiled
    obtain ⟨own, others⟩ := List.forall_mem_cons.mp leaves
    have reach : tree.stop ≤ stop := tiles.le fun tree member => (later tree member).le
    rw [Node.leavesAll, own, ih tiles later others, extract_append first.le reach]

theorem Tiled.leaves {tree : Tree} (tiled : Tiled tokens tree) :
    tree.leaves = (planted tokens).extract tree.start tree.stop := by
  induction tiled with
  | leaf there => exact (planted_token there).symm
  | branch tiles tiled ih => exact tiles.leavesAll tiled ih

end Leaves

namespace Machine

variable {machine : Machine} {tokens : List Token} {goal : String} {state : State}

structure Based (tokens : List Token) (state : State) : Prop where
  installed : state.tokens = some tokens
  inside : state.cursor ≤ tokens.length
  bottom : ∀ frame, state.stack.getLast? = some frame → frame.start = 0
  covering : Covering tokens state

theorem based_goal : Based tokens (machine.pushGoal goal (.initial tokens)).after := by
  have covering : Covering tokens (machine.pushGoal goal (.initial tokens)).after := covering_goal
  revert covering
  refine pushGoal_cases (fun _ => ?_) fun _ => ?_
  · exact fun covering => ⟨rfl, Nat.zero_le _, nofun, covering⟩
  · refine fun covering => ⟨rfl, Nat.zero_le _, fun frame last => ?_, covering⟩
    cases last
    rfl

theorem Reached.based (reached : machine.Reached tokens goal state) : Based tokens state := by
  by_cases known : machine.Knows goal
  · have standing := reached.standing known
    exact ⟨standing.installed, standing.inside,
      fun frame last => (standing.tower.bottom last).2.1, reached.covering known⟩
  · rw [reached.unchanged (inert_goal known)]
    exact based_goal

theorem Reached.accepted (reached : machine.Reached tokens goal state)
    (accepted : (machine.run state).result = .ok true) :
    ∃ tree, (machine.run state).after.result = some tree ∧ Tiled tokens tree ∧
      tree.start = 0 ∧ tree.stop = tokens.length := by
  have finished := reached.run.based
  obtain ⟨tree, found, beyond⟩ := run_accepted reached.based.installed accepted
  obtain ⟨_, tiled, start, stop⟩ := finished.covering.result tree found
  exact ⟨tree, found, tiled, start, stop.trans (Nat.le_antisymm finished.inside beyond)⟩

/-- The tokens before the cursor lie under the frames and trees that were built of them,
each at its place and once, and a run that succeeds has a place for every token. -/
theorem reached_tiled (reached : machine.Reached tokens goal state) :
    Covered tokens state.cursor state.stack ∧
      (∀ frame, state.stack.getLast? = some frame → frame.start = 0) ∧
      (∀ tree, state.result = some tree → Tiled tokens tree ∧ tree.start = 0 ∧
        tree.stop = state.cursor ∧ tree.leaves = (planted tokens).take state.cursor) ∧
      ((machine.run state).result = .ok true →
        ∃ tree, (machine.run state).after.result = some tree ∧
          tree.leaves = planted tokens) := by
  obtain ⟨_, _, bottom, covering⟩ := reached.based
  refine ⟨covering.stack, bottom, ?_, ?_⟩
  · intro tree found
    obtain ⟨_, tiled, start, stop⟩ := covering.result tree found
    refine ⟨tiled, start, stop, ?_⟩
    rw [tiled.leaves, start, stop]
    simp [List.extract]
  · intro accepted
    obtain ⟨tree, found, tiled, start, stop⟩ := reached.accepted accepted
    refine ⟨tree, found, ?_⟩
    rw [tiled.leaves, start, stop]
    simp [List.extract, planted]

/-- Two open brackets and a third frame above them, and later all four tokens in a tree. -/
theorem reached_tiled_nested :
    let machine := Brackets.machine 3
    let tokens := Brackets.tokens ["a", "a", "b", "b"]
    let goal := (machine.pushGoal "S" (.initial tokens)).after
    let inside := (machine.step (machine.step (machine.step (machine.step goal).after).after).after)
    inside.after.stack.map Frame.start = [2, 1, 0] ∧ inside.after.cursor = 2 ∧
      Covered tokens inside.after.cursor inside.after.stack ∧
      (machine.run goal).result = .ok true ∧
      ∃ tree, (machine.run goal).after.result = some tree ∧
        tree.leaves = [.leaf "WORD" "a" 0 1, .leaf "WORD" "a" 1 2, .leaf "WORD" "b" 2 3,
          .leaf "WORD" "b" 3 4] :=
  ⟨by cbv, by cbv, (reached_tiled (.step (.step (.step (.step .goal))))).1, by cbv,
    (reached_tiled .goal).2.2.2 (by cbv)⟩

end Machine

end Descent
