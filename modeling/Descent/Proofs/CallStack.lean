import Mathlib
import Descent.Proofs.Brackets
import Descent.Proofs.Growth

/-! What the frame below says of the frame above it.

Why a frame was pushed is written on the frame, and its parent stands at the slot, or just
behind it. A repetition comes after an expansion that consumed tokens, and the tree of that
expansion is the last that the parent has.
-/

set_option autoImplicit false

namespace Descent

theorem Tiles.stop_of_last {start stop : Nat} {trees : List Tree} {tree : Tree}
    (tiles : Tiles start trees stop) (last : trees.getLast? = some tree) : tree.stop = stop := by
  obtain ⟨front, rfl⟩ := List.getLast?_eq_some_iff.mp last
  obtain ⟨middle, _, _, reach⟩ := tiles_append.mp tiles
  exact reach

namespace Machine

structure Called (machine : Machine) (child parent : Frame) : Prop where
  origin : child.origin ≠ .goal
  selected : parent.production ≠ none
  required : child.origin = .expand ∨ child.origin = .again →
    parent.progressed = none ∧ ∃ symbol : NonTerminal, symbol.name = child.symbol ∧
      machine.element? parent = some (.required (.nonTerminal symbol))
  optional : child.origin = .optional →
    ∃ production index, ∃ symbol : NonTerminal, symbol.name = child.symbol ∧
      machine.current? parent = some production ∧ parent.element = index + 1 ∧
      production[index]? = some (.optional (some (.nonTerminal symbol)))
  again : child.origin = .again → parent.start < child.start ∧
    ∃ tree, parent.children.getLast? = some tree ∧ Node.IsBranch child.symbol tree ∧
      tree.start < tree.stop ∧ tree.stop = child.start

/-- A stack of calls, the goal at the bottom and its top at the cursor. -/
structure CallStack (machine : Machine) (state : State) : Prop where
  bottom : ∀ frame, state.stack.getLast? = some frame → frame.origin = .goal
  called : state.stack.IsChain machine.Called
  bounded : ∀ frame ∈ state.stack, frame.production ≠ none →
    ∃ production, machine.current? frame = some production ∧ frame.element ≤ production.length
  unselected : ∀ frame, state.stack.head? = some frame → frame.production = none →
    frame.children = [] ∧ frame.start = state.cursor

section Neighbours

variable {machine : Machine} {tokens : List Token} {goal : String} {child parent : Frame}

theorem Awaits.last_child (awaits : machine.Awaits tokens child parent)
    (origin : child.origin = .again) (tiles : Tiles parent.start parent.children child.start) :
    ∃ tree, parent.children.getLast? = some tree ∧ Node.IsBranch child.symbol tree ∧
      tree.start < tree.stop ∧ tree.stop = child.start := by
  cases awaits with
  | expand other | optional other =>
    rw [origin] at other
    cases other
  | @again current _ grown repeated =>
    obtain ⟨production, groups, _, _, children⟩ := grown
    obtain ⟨filled, moved⟩ := repeated
    have last : parent.children.getLast? = some (current.getLast filled) := by
      rw [children, List.getLast?_append_of_ne_nil _ filled, List.getLast?_eq_some_getLast]
    obtain ⟨branch, forward⟩ := moved _ (List.getLast_mem filled)
    exact ⟨_, last, branch, forward, tiles.stop_of_last last⟩

theorem Calls.called (calls : machine.Calls parent child) (waiting : parent.progressed = none)
    (awaits : machine.Awaits tokens child parent)
    (tiles : Tiles parent.start parent.children child.start) : machine.Called child parent := by
  have selected := calls.selected
  cases calls with
  | expand slot name origin =>
    refine ⟨by rw [origin]; nofun, selected, fun _ => ⟨waiting, _, name, slot⟩, ?_, ?_⟩
    · rw [origin]
      nofun
    · rw [origin]
      nofun
  | again slot name origin later =>
    refine ⟨by rw [origin]; nofun, selected, fun _ => ⟨waiting, _, name, slot⟩, ?_, ?_⟩
    · rw [origin]
      nofun
    · exact fun _ => ⟨later, awaits.last_child origin tiles⟩
  | optional current slot passed name origin =>
    refine ⟨by rw [origin]; nofun, selected, ?_, ?_, ?_⟩
    · rw [origin]
      rintro (other | other) <;> cases other
    · exact fun _ => ⟨_, _, _, name, current, passed, slot⟩
    · rw [origin]
      nofun

/-- What the three invariants say of each pair of neighbours. -/
theorem Tower.called {stack : List Frame} {cursor : Nat} (tower : machine.Tower goal stack)
    (awaits : stack.IsChain (machine.Awaits tokens)) (covered : Covered tokens cursor stack) :
    stack.IsChain machine.Called := by
  induction tower generalizing cursor with
  | empty => exact .nil
  | base => exact .singleton _
  | push _ _ calls waiting _ _ ih =>
    obtain ⟨waits, rest⟩ := List.isChain_cons_cons.mp awaits
    obtain ⟨_, _, below⟩ := covered
    exact .cons_cons (calls.called waiting waits below.1) (ih rest below)

end Neighbours

variable {machine : Machine} {tokens : List Token} {goal : String} {state : State}

theorem Standing.callStack (standing : machine.Standing tokens goal state)
    (growing : machine.Growing tokens goal state) (covering : Covering tokens state) :
    machine.CallStack state where
  bottom _ last := (standing.tower.bottom last).1
  called := standing.tower.called growing.waiting covering.stack
  bounded frame member := (standing.tower.upright frame member).chosen
  unselected frame head unselected := by
    have upright := standing.tower.upright frame (List.mem_of_mem_head? head)
    exact ⟨(upright.blank unselected).2.2, (standing.top frame head).unmoved unselected⟩

/-- Frames fit together in every state that a goal leads to, so that a step of a stack that
is not empty breaks off only where it overflows, and a backtrack never does. -/
theorem reached_call_stack (known : machine.Knows goal)
    (reached : machine.Reached tokens goal state) :
    machine.CallStack state ∧ (state.stack ≠ [] →
      ((∃ moved, (machine.step state).result = .ok moved) ∨
        ∃ exceeded, (machine.step state).result = .error (.depthExceeded exceeded)) ∧
      ∃ found, (machine.backtrack state).result = .ok found) := by
  have standing := reached.standing known
  refine ⟨standing.callStack (reached.growing known) (reached.covering known), fun filled => ?_⟩
  obtain ⟨frame, below, stack⟩ := List.exists_cons_of_ne_nil filled
  refine ⟨(standing.step_turns stack).2, ?_⟩
  rcases standing.backtrack_turns.2 with found | ⟨lost, _⟩
  · exact ⟨true, found⟩
  · exact ⟨false, lost⟩

/-- An inner pair of brackets is closed, and a repetition of it has just begun. -/
theorem reached_call_stack_again :
    let machine := Brackets.machine 3
    let goal := (machine.pushGoal "S" (.initial (Brackets.tokens ["a", "a", "b", "b"]))).after
    let inner := (machine.step (machine.step (machine.step (machine.step goal).after).after).after)
    let tried := (machine.backtrack (machine.step inner.after).after).after
    let empty := (machine.backtrack (machine.step tried).after).after
    let closed := (machine.step (machine.step (machine.step empty).after).after).after
    let state := (machine.step (machine.step closed).after).after
    state.stack.map Frame.origin = [.again, .goal] ∧ state.stack.map Frame.start = [3, 0] ∧
      machine.CallStack state ∧ (machine.step state).result = .ok false :=
  ⟨by cbv, by cbv, (reached_call_stack (Brackets.known 3) (.step (.step (.step (.step (.step
    (.backtrack (.step (.backtrack (.step (.step (.step (.step (.step .goal)))))))))))))).1, by cbv⟩

end Machine

end Descent
