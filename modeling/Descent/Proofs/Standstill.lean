import Mathlib
import Descent.Proofs.Beginnings
import Descent.Proofs.Recursion.Idle
import Descent.Proofs.Recursion.Report

/-! Runs that consume nothing.

Where the first token begins nothing, the machine stands at the first token for as long as it
runs. The goal completes there if it is nullable. If it can neither begin nor be empty, the
stack fills up.
-/

set_option autoImplicit false

namespace Descent

namespace Machine

variable {machine : Machine} {tokens : List Token} {goal : String} {state before after : State}

theorem Standing.begun (standing : machine.Standing tokens goal state)
    (growing : machine.Growing tokens goal state) (covering : Covering tokens state)
    (filled : state.stack ≠ []) (moved : 0 < state.cursor) :
    ∃ token, tokens[0]? = some token ∧
      (machine.grammar.opening goal).first.accepts token = true := by
  have last := List.getLast?_eq_some_getLast filled
  obtain ⟨_, start, symbol⟩ := standing.tower.bottom last
  have led := (standing.started growing covering _ (List.getLast_mem filled)).led
  unfold Led at led
  rw [start, symbol] at led
  exact led moved

/-- Only a frame that stays on the stack moves the cursor. -/
theorem Turn.cursor (turn : machine.Turn tokens before after) :
    after.cursor = before.cursor ∨ after.stack ≠ [] ∧ before.cursor < after.cursor := by
  cases turn with
  | shift => exact .inr ⟨nofun, Nat.lt_succ_self _⟩
  | fail | leftover =>
    obtain ⟨failure, same⟩ := fail_eq before _ _
    rw [same]
    exact .inl rfl
  | _ => exact .inl rfl

structure Still (machine : Machine) (tokens : List Token) (goal : String) (state : State) :
    Prop where
  growing : machine.Growing tokens goal state
  covering : Covering tokens state
  cursor : state.cursor = 0

theorem Still.turn (refuses : machine.grammar.Refuses tokens goal 0)
    (standing : machine.Standing tokens goal before) (turn : machine.Turn tokens before after)
    (still : machine.Still tokens goal before) : machine.Still tokens goal after := by
  have growing := still.growing.turn standing turn
  have covering := still.covering.turn standing turn
  refine ⟨growing, covering, ?_⟩
  rcases turn.cursor with same | ⟨filled, moved⟩
  · exact same.trans still.cursor
  · obtain ⟨token, there, accepted⟩ := (standing.turn turn).begun growing covering filled
      (Nat.zero_lt_of_lt moved)
    rw [refuses token there] at accepted
    cases accepted

theorem Reached.still (known : machine.Knows goal)
    (refuses : machine.grammar.Refuses tokens goal 0)
    (reached : machine.Reached tokens goal state) : machine.Still tokens goal state := by
  refine reached.invariant known ?_ (Still.turn refuses)
  have start : (machine.pushGoal goal (.initial tokens)).after.cursor = 0 :=
    pushGoal_cases (fun _ => rfl) fun _ => rfl
  exact ⟨Reached.growing known .goal, covering_goal, start⟩

/-- A goal that cannot begin with the first token stays there. Unless the stack is too deep
for that, the goal completes without a token exactly if it is nullable. -/
theorem derive_idle (known : machine.Knows goal) (refused : ∀ token, tokens[0]? = some token →
      machine.grammar.couldStartWith goal token = .ok false) :
    (∀ state, machine.Reached tokens goal state → state.cursor = 0) ∧
      ((∃ exceeded, (machine.derive goal tokens).result = .error (.depthExceeded exceeded)) ∨
        ∃ empty, machine.grammar.nullable goal = .ok empty ∧
          (machine.derive goal tokens).result = .ok (empty && tokens.isEmpty) ∧
          (machine.derive goal tokens).after.result.isSome = empty ∧
          ∀ tree, (machine.derive goal tokens).after.result = some tree →
            Node.IsBranch goal tree ∧ tree.start = 0 ∧ tree.stop = 0) := by
  have refuses : machine.grammar.Refuses tokens goal 0 := fun token there =>
    (Grammar.couldStartWith_eq_ok.mp (refused token there)).2
  refine ⟨fun state reached => (reached.still known refuses).cursor, ?_⟩
  have built : ∀ tree, (machine.derive goal tokens).after.result = some tree →
      Node.IsBranch goal tree ∧ tree.start = 0 ∧ tree.stop = 0 := by
    intro tree found
    obtain ⟨growing, covering, cursor⟩ := Reached.still known refuses derive_reached
    obtain ⟨_, _, start, stop⟩ := covering.result tree found
    exact ⟨(growing.result tree found).1, start, stop.trans cursor⟩
  rcases Nat.eq_zero_or_pos machine.maxDepth with full | room
  · exact .inl (derive_full full)
  have reported : report (machine.derive goal tokens) = _ := derive_answer known room
  have idles : (machine.descend tokens [] goal 0).Idles machine.maxDepth 0 _ :=
    descend_idles (Nat.zero_le _) refuses
  generalize machine.descend tokens [] goal 0 = answer at reported idles
  have result := congrArg Prod.fst reported
  have tree := congrArg (fun report => report.2.1.isSome) reported
  cases idles with
  | overflow => exact .inl ⟨_, result⟩
  | derived null =>
    refine .inr ⟨true, Grammar.nullable_eq_ok.mpr ⟨known, null⟩, ?_, tree, built⟩
    rw [Bool.true_and]
    refine result.trans ?_
    cases tokens <;> rfl
  | lost filled =>
    have needs : (machine.grammar.opening goal).nullable = false := by simpa using filled
    exact .inr ⟨false, Grammar.nullable_eq_ok.mpr ⟨known, needs⟩, result, tree, built⟩

/-- A closing bracket begins no brackets, and there is an empty tree in front of it. -/
theorem derive_idle_closing :
    let machine := Brackets.machine 2
    let tokens := Brackets.tokens ["b"]
    (∀ token, tokens[0]? = some token → machine.grammar.couldStartWith "S" token = .ok false) ∧
      machine.grammar.nullable "S" = .ok true ∧
      (∀ state, machine.Reached tokens "S" state → state.cursor = 0) ∧
      (machine.derive "S" tokens).result = .ok false ∧
      (machine.derive "S" tokens).after.result = some (.branch "S" 0 0 []) := by
  intro machine tokens
  have refused : ∀ token, tokens[0]? = some token →
      machine.grammar.couldStartWith "S" token = .ok false := by
    rintro _ ⟨⟩
    cbv
  exact ⟨refused, by cbv, (derive_idle (Brackets.known 2) refused).1, by cbv, by cbv⟩

/-- A goal that can neither begin nor be empty fills the stack before anything is consumed. -/
theorem run_overflows (room : 0 < machine.maxDepth)
    (none : machine.grammar.first goal = .ok TerminalSet.empty)
    (filled : machine.grammar.nullable goal = .ok false) (tokens : List Token) :
    (machine.pushGoal goal (.initial tokens)).result = .ok () ∧
      ∃ exceeded, (machine.run (machine.pushGoal goal (.initial tokens)).after).result =
          .error (.depthExceeded exceeded) ∧
        exceeded.maxDepth = machine.maxDepth ∧ exceeded.cursor = 0 ∧
        exceeded.symbols.length = machine.maxDepth := by
  obtain ⟨known, first⟩ := Grammar.first_eq_ok.mp none
  have hopeless : machine.grammar.Hopeless goal :=
    ⟨known, by rw [first]; rfl, (Grammar.nullable_eq_ok.mp filled).2⟩
  refine ⟨(pushGoal_room room).1, ?_⟩
  have reported : report (machine.derive goal tokens) = _ := derive_answer known room
  have deep : (machine.descend tokens [] goal 0).Deep machine.maxDepth 0 :=
    descend_deep (Nat.zero_le _) hopeless
  generalize machine.descend tokens [] goal 0 = answer at reported deep
  have result := congrArg Prod.fst reported
  rw [← derive_run room]
  cases deep with
  | overflow at_ => exact ⟨_, result, at_.maxDepth, at_.cursor, at_.symbols⟩

end Machine

/-! Spirals are such goals: `A` calls `B` after an `N` and perhaps another, and `B` calls `A`,
while `N` is nothing.
-/

namespace Spiral

def location : Location := ⟨"spiral", 1⟩

def outer : NonTerminal := ⟨0, "A", location⟩

def inner : NonTerminal := ⟨1, "B", location⟩

def nothing : NonTerminal := ⟨2, "N", location⟩

def mark : Terminal := .of (.lexeme "x") none location

def rules : List Definition :=
  [⟨outer, [[.required (.nonTerminal nothing), .optional (some (.nonTerminal nothing)),
      .required (.nonTerminal inner), .required (.terminal mark)]], by decide⟩,
    ⟨inner, [[.required (.nonTerminal outer)]], by decide⟩, ⟨nothing, [[]], by decide⟩]

def grammar : Grammar where
  name := "spiral"
  start := outer
  rules := rules
  openings := OpeningTable.ofRules rules
  start_mem := by decide
  closed := by
    intro rule member called mentioned
    simp only [rules, List.mem_cons, List.not_mem_nil, or_false] at member
    rcases member with rfl | rfl | rfl <;> revert called <;> decide
  names_distinct := by decide
  openings_eq := rfl

def machine (depth : Nat) : Machine := ⟨grammar, depth⟩

end Spiral

/-- The same two nonterminals over and over, until there is no room. -/
theorem Machine.run_overflows_spiral :
    (Spiral.machine 4).grammar.first "A" = .ok TerminalSet.empty ∧
      (Spiral.machine 4).grammar.nullable "A" = .ok false ∧
      ((Spiral.machine 4).run
          ((Spiral.machine 4).pushGoal "A" (.initial (Brackets.tokens ["x"]))).after).result =
        .error (.depthExceeded ⟨4, 0, ["A", "B", "A", "B"]⟩) ∧
      ((Spiral.machine 4).pushGoal "A" (.initial (Brackets.tokens ["x"]))).result = .ok () ∧
      ∃ exceeded, ((Spiral.machine 4).run
          ((Spiral.machine 4).pushGoal "A" (.initial (Brackets.tokens ["x"]))).after).result =
          .error (.depthExceeded exceeded) ∧
        exceeded.maxDepth = (Spiral.machine 4).maxDepth ∧ exceeded.cursor = 0 ∧
        exceeded.symbols.length = (Spiral.machine 4).maxDepth := by
  have none : (Spiral.machine 4).grammar.first "A" = .ok TerminalSet.empty := by cbv
  have filled : (Spiral.machine 4).grammar.nullable "A" = .ok false := by cbv
  exact ⟨none, filled, by cbv, run_overflows (by decide) none filled (Brackets.tokens ["x"])⟩

end Descent
