import Descent.Machine.Measure

/-! Every round of the machine uses something up.

Tokens come first: a shift leaves one fewer. Between shifts the stack loses weight,
whatever moves are made and however far a backtrack goes down.
-/

set_option autoImplicit false

namespace Descent

namespace Machine

/-- Less is left to do in the second state: fewer tokens, or as many and less weight. -/
def Eases (machine : Machine) (before after : State) : Prop :=
  Prod.Lex (· < ·) (· < ·) (remaining after, machine.burden after)
    (remaining before, machine.burden before)

section Rounds

variable (machine : Machine)

theorem table_eq {symbol : String} {productions : List Production}
    (known : machine.grammar.productionsOf symbol = .ok productions) :
    machine.table symbol = productions := by
  unfold Grammar.productionsOf at known
  unfold table
  split at known
  · rename_i found
    cases known
    rw [found, Option.getD_some]
  · cases known

/-- A move other than to complete, to shift or to be stuck has an element before it. -/
inductive Stands (productions : List Production) (frame : Frame) : Prop where
  | at (production : Production)
      (selected : frame.production.bind (productions[·]?) = some production)
      (element : frame.element < production.length)

theorem stands_of_move (productions : List Production) (token : Option Token) (frame : Frame) :
    match machine.move productions token frame with
    | .complete | .stuck _ => True
    | .shift shifted => token = some shifted
    | .leave | .attempt _ => Stands productions frame
    | .enter _ origin =>
      Stands productions frame ∧ frame.progressed ≠ some false ∧ origin ≠ .optional := by
  unfold move
  cases selected : frame.production.bind (productions[·]?) with
  | none => trivial
  | some production =>
    dsimp only
    cases found : production[frame.element]? with
    | none => trivial
    | some element =>
      have stands : Stands productions frame :=
        .at production selected (List.getElem?_eq_some_iff.mp found).1
      cases element with
      | required symbol =>
        cases symbol with
        | terminal terminal =>
          dsimp only
          cases token with
          | none => trivial
          | some token =>
            dsimp only
            by_cases accepted : terminal.accepts token = true
            · rw [if_pos accepted]
            · rw [if_neg accepted]
              trivial
        | nonTerminal symbol =>
          dsimp only
          cases progressed : frame.progressed with
          | none => exact ⟨stands, by simp, by simp⟩
          | some value =>
            cases value with
            | true => exact ⟨stands, by simp, by simp⟩
            | false => exact stands
      | optional symbol =>
        cases symbol with
        | none => exact stands
        | some symbol =>
          cases symbol with
          | nonTerminal symbol => exact stands
          | terminal terminal =>
            dsimp only
            cases token with
            | none => exact stands
            | some token =>
              dsimp only
              by_cases accepted : terminal.accepts token = true
              · rw [if_pos accepted]
              · rw [if_neg accepted]
                exact stands

theorem one_le_openness (progressed : Option Bool) : 1 ≤ openness progressed := by
  unfold openness
  split <;> omega

theorem rank_advance_le {imposed : Option Nat} (frame : Frame)
    (open_ : ∀ value, imposed = some value → 1 ≤ value) :
    machine.rank none frame.advance ≤ machine.rank imposed frame := by
  unfold rank slack
  have same : frame.advance.production = frame.production := rfl
  have symbol : frame.advance.symbol = frame.symbol := rfl
  have untried : machine.untried frame.advance = machine.untried frame := rfl
  have element : frame.advance.element = frame.element + 1 := rfl
  have progressed : openness frame.advance.progressed = 4 := rfl
  have positive : 1 ≤ imposed.getD (openness frame.progressed) := by
    cases imposed with
    | none => exact one_le_openness _
    | some value => exact open_ value rfl
  rw [same, symbol, untried, element, progressed]
  split
  · omega
  · simp only [Option.getD_none]
    split <;> split <;> omega

theorem rank_advance_lt {frame : Frame} (stands : Stands (machine.table frame.symbol) frame) :
    machine.rank none frame.advance < machine.rank none frame := by
  obtain ⟨production, selected, element⟩ := stands
  unfold rank slack
  have same : frame.advance.production = frame.production := rfl
  have symbol : frame.advance.symbol = frame.symbol := rfl
  have untried : machine.untried frame.advance = machine.untried frame := rfl
  have next : frame.advance.element = frame.element + 1 := rfl
  have progressed : openness frame.advance.progressed = 4 := rfl
  have positive := one_le_openness frame.progressed
  rw [same, symbol, untried, next, progressed, selected]
  simp only [Option.getD_none]
  split <;> omega

/-- Fewer tokens are left, or as many and the stack is lighter. -/
def Relieves (state after : State) (weight : Nat) : Prop :=
  after.tokens = state.tokens ∧
    (remaining after < remaining state ∨
      after.cursor = state.cursor ∧ machine.burden after < weight)

theorem Relieves.eases {state after : State}
    (relieved : machine.Relieves state after (machine.burden state)) :
    machine.Eases state after := by
  obtain ⟨tokens, fewer | ⟨cursor, lighter⟩⟩ := relieved
  · exact Prod.Lex.left _ _ fewer
  · unfold Eases remaining
    rw [tokens, cursor]
    exact Prod.Lex.right _ lighter

theorem Relieves.trans_le {state after : State} {weight other : Nat}
    (relieved : machine.Relieves state after weight) (le : weight ≤ other) :
    machine.Relieves state after other := by
  obtain ⟨tokens, fewer | ⟨cursor, lighter⟩⟩ := relieved
  · exact ⟨tokens, Or.inl fewer⟩
  · exact ⟨tokens, Or.inr ⟨cursor, Nat.lt_of_lt_of_le lighter le⟩⟩

theorem push_after {symbol : String} {origin : Origin} {state : State} {pushed : Bool}
    (ok : (machine.push symbol origin state).result = .ok pushed) :
    let after := (machine.push symbol origin state).after
    after.tokens = state.tokens ∧ after.cursor = state.cursor ∧
      after.failure = state.failure ∧
      (pushed = false ∧ after.stack = state.stack ∨
        pushed = true ∧ state.stack.length < machine.maxDepth ∧
          ∃ frame : Frame, after.stack = frame :: state.stack ∧ frame.production = none ∧
            frame.origin = origin ∧ frame.start = state.cursor) := by
  unfold push at ok ⊢
  dsimp only at ok ⊢
  split at ok
  · rename_i held
    rw [if_pos held]
    cases ok
    exact ⟨rfl, rfl, rfl, Or.inl ⟨rfl, rfl⟩⟩
  · rename_i fresh
    rw [if_neg fresh]
    split at ok
    · cases ok
    · rename_i room
      rw [if_neg room]
      cases ok
      exact ⟨rfl, rfl, rfl, Or.inr ⟨rfl, Nat.lt_of_not_le room, _, rfl, rfl, rfl, rfl⟩⟩

theorem weight_push_lt {cursor : Nat} {child parent before : Frame} {below : List Frame}
    (unselected : child.production = none) (room : (parent :: below).length < machine.maxDepth)
    (origin : parent.origin = before.origin) (start : parent.start = before.start)
    (lower : machine.rank (pressure cursor child) parent < machine.rank none before) :
    machine.weight cursor none (child :: parent :: below) <
      machine.weight cursor none (before :: below) := by
  have same : pressure cursor parent = pressure cursor before := by
    unfold pressure
    rw [origin, start]
  have small := machine.fresh_weight_lt unselected room
  have paid := Nat.mul_le_mul_right (machine.unit below) (Nat.add_le_add_right lower 1)
  rw [Nat.add_mul _ 1, Nat.one_mul] at paid
  rw [weight_cons, weight_cons, weight_cons, same]
  omega

theorem rank_enter_lt {frame : Frame} (stands : Stands (machine.table frame.symbol) frame)
    (wanted : frame.progressed ≠ some false) :
    machine.rank (some 2) { frame with progressed := none } < machine.rank none frame := by
  obtain ⟨production, selected, element⟩ := stands
  have left : 3 ≤ openness frame.progressed := by
    unfold openness
    split
    · omega
    · omega
    · rename_i no
      exact absurd no wanted
  have untried : machine.untried { frame with progressed := none } = machine.untried frame := rfl
  unfold rank slack
  rw [untried]
  dsimp only
  rw [selected]
  simp only [Option.getD_none, Option.getD_some]
  rw [if_pos element, if_pos element]
  omega

theorem fail_keeps (state : State) (symbols : List String) (expected : List Expectation) :
    (state.fail symbols expected).tokens = state.tokens ∧
      (state.fail symbols expected).cursor = state.cursor ∧
      (state.fail symbols expected).stack = state.stack := by
  unfold State.fail
  dsimp only
  split
  · exact ⟨rfl, rfl, rfl⟩
  · split
    · exact ⟨rfl, rfl, rfl⟩
    · split <;> exact ⟨rfl, rfl, rfl⟩

theorem rank_adopt_le (cursor : Nat) (child parent : Frame) :
    machine.rank none (adopt cursor child parent) ≤
      machine.rank (pressure cursor child) parent := by
  have production : (adopt cursor child parent).production = parent.production := rfl
  have symbol : (adopt cursor child parent).symbol = parent.symbol := rfl
  have element : (adopt cursor child parent).element = parent.element := rfl
  have untried : machine.untried (adopt cursor child parent) = machine.untried parent := rfl
  have settled : openness (adopt cursor child parent).progressed ≤
      (pressure cursor child).getD (openness parent.progressed) := by
    unfold pressure adopt
    by_cases optional : child.origin = .optional
    · simp [optional]
    · by_cases further : child.start < cursor
      · simp [optional, further, openness]
      · simp [optional, further, openness]
  unfold rank slack
  rw [production, symbol, element, untried]
  split
  · omega
  · split
    · simp only [Option.getD_none]
      omega
    · omega

theorem complete_relieves {state : State} {frame : Frame} {below : List Frame}
    (ok : (complete state frame below).result = .ok true) :
    machine.Relieves state (complete state frame below).after
      (machine.weight state.cursor none (frame :: below)) := by
  unfold complete at ok ⊢
  split at ok
  · rename_i held
    rw [if_pos held]
    cases below with
    | nil =>
      refine ⟨rfl, Or.inr ⟨rfl, ?_⟩⟩
      exact machine.weight_below_lt state.cursor none frame []
    | cons parent rest =>
      refine ⟨rfl, Or.inr ⟨rfl, ?_⟩⟩
      have kept : machine.weight state.cursor none (adopt state.cursor frame parent :: rest) ≤
          machine.weight state.cursor (pressure state.cursor frame) (parent :: rest) :=
        machine.weight_top_le rfl rfl (machine.rank_adopt_le state.cursor frame parent)
      exact Nat.lt_of_le_of_lt kept
        (machine.weight_below_lt state.cursor none frame (parent :: rest))
  · cases ok

theorem perform_relieves {state : State} {frame : Frame} {below : List Frame}
    {tokens : List Token} (installed : state.tokens = some tokens)
    (ok : (machine.perform state frame below
      (machine.move (machine.table frame.symbol) tokens[state.cursor]? frame)).result =
        .ok true) :
    machine.Relieves state (machine.perform state frame below
        (machine.move (machine.table frame.symbol) tokens[state.cursor]? frame)).after
      (machine.weight state.cursor none (frame :: below)) := by
  have sound := machine.stands_of_move (machine.table frame.symbol) tokens[state.cursor]? frame
  -- A shift uses up a token. All other moves leave the cursor, and a lighter stack.
  revert sound ok
  cases machine.move (machine.table frame.symbol) tokens[state.cursor]? frame with
  | complete => exact fun ok _ => machine.complete_relieves ok
  | stuck expected => exact fun ok => nomatch ok
  | shift token =>
    intro _ sound
    have inside := (List.getElem?_eq_some_iff.mp sound).1
    refine ⟨rfl, Or.inl ?_⟩
    simp only [perform, Outcome.done, shift, remaining, installed, Option.getD_some]
    omega
  | leave =>
    intro _ stands
    exact ⟨rfl, Or.inr ⟨rfl, machine.weight_top_lt rfl rfl (machine.rank_advance_lt stands)⟩⟩
  | enter symbol origin =>
    intro ok sound
    obtain ⟨stands, wanted, required⟩ := sound
    unfold perform at ok ⊢
    dsimp only at ok ⊢
    split at ok
    · rename_i refused
      exact nomatch refused.symm.trans ok
    · obtain ⟨sameTokens, sameCursor, _, refused |
          ⟨_, room, child, stack, unselected, from_, start⟩⟩ := machine.push_after ok
      · exact nomatch refused.1
      · refine ⟨sameTokens, Or.inr ⟨sameCursor, ?_⟩⟩
        unfold burden
        rw [stack, sameCursor]
        refine machine.weight_push_lt unselected room rfl rfl ?_
        have gentle : pressure state.cursor child = some 2 := by
          unfold pressure
          rw [from_, start, if_neg required, if_neg (Nat.lt_irrefl _)]
        rw [gentle]
        exact machine.rank_enter_lt stands wanted
  | attempt symbol =>
    intro ok stands
    unfold perform at ok ⊢
    dsimp only at ok ⊢
    split at ok
    · rename_i pushed result
      obtain ⟨sameTokens, sameCursor, _, ⟨_, stack⟩ |
          ⟨_, room, child, stack, unselected, from_, start⟩⟩ := machine.push_after result
      · refine ⟨sameTokens, Or.inr ⟨sameCursor, ?_⟩⟩
        unfold burden
        rw [stack, sameCursor]
        exact machine.weight_top_lt rfl rfl (machine.rank_advance_lt stands)
      · refine ⟨sameTokens, Or.inr ⟨sameCursor, ?_⟩⟩
        unfold burden
        rw [stack, sameCursor]
        refine machine.weight_push_lt unselected room rfl rfl ?_
        have gentle : pressure state.cursor child = none := by
          unfold pressure
          rw [from_, if_pos rfl]
        rw [gentle]
        exact machine.rank_advance_lt stands
    · rename_i failed
      rw [failed] at ok
      cases ok

theorem untried_predicted_lt {token : Option Token} {frame : Frame} {production : Nat}
    (found : machine.predicted? (machine.table frame.symbol) token frame = some production) :
    machine.untried (frame.select production) < machine.untried frame := by
  unfold predicted? at found
  cases unselected : frame.production with
  | some _ => simp [unselected] at found
  | none =>
    cases token with
    | none => simp [unselected] at found
    | some token =>
      simp only [unselected] at found
      have inside := (List.findIdx?_eq_some_iff_getElem.mp found).1
      unfold untried
      rw [unselected]
      show (machine.table frame.symbol).length - 1 - production <
        (machine.table frame.symbol).length
      omega

theorem untried_next_lt {frame : Frame}
    (more : frame.nextProduction < (machine.table frame.symbol).length) :
    machine.untried (frame.select frame.nextProduction) < machine.untried frame := by
  have chosen : machine.untried (frame.select frame.nextProduction) =
      (machine.table frame.symbol).length - 1 - frame.nextProduction := rfl
  rw [chosen]
  unfold Frame.nextProduction at more ⊢
  unfold untried
  cases selected : frame.production with
  | none =>
    simp only [selected] at more ⊢
    omega
  | some production =>
    simp only [selected] at more ⊢
    omega

theorem act_relieves {state : State} {frame : Frame} {below : List Frame}
    {tokens : List Token} (installed : state.tokens = some tokens)
    (ok : (machine.act (machine.table frame.symbol) tokens[state.cursor]? state frame
      below).result = .ok true) :
    machine.Relieves state
      (machine.act (machine.table frame.symbol) tokens[state.cursor]? state frame below).after
      (machine.weight state.cursor none (frame :: below)) := by
  unfold act at ok ⊢
  cases found : machine.predicted? (machine.table frame.symbol) tokens[state.cursor]? frame with
  | none =>
    simp only [found] at ok ⊢
    exact machine.perform_relieves installed ok
  | some production =>
    simp only [found] at ok ⊢
    have lower := machine.rank_lt_of_untried_lt none (machine.untried_predicted_lt found)
    have relieved : machine.Relieves (state.select frame below production) _ _ :=
      machine.perform_relieves installed ok
    exact relieved.trans_le machine
        (Nat.le_of_lt (machine.weight_top_lt rfl rfl (Nat.lt_of_lt_of_le lower.1 lower.2)))

/-- The weight of a stack whose top frame is done with its current production. -/
def floor (machine : Machine) (cursor : Nat) : List Frame → Nat
  | [] => 0
  | frame :: below =>
    (machine.stride * machine.untried frame + 1) * machine.unit below +
      machine.weight cursor (pressure cursor frame) below

theorem floor_le_weight {cursor : Nat} (imposed : Option Nat) (stack : List Frame) :
    machine.floor cursor stack ≤ machine.weight cursor imposed stack := by
  cases stack with
  | nil => exact Nat.le_refl _
  | cons frame below =>
    have : machine.stride * machine.untried frame + 1 ≤ machine.rank imposed frame + 1 := by
      unfold rank
      omega
    have := Nat.mul_le_mul_right (machine.unit below) this
    rw [weight_cons, floor]
    omega

theorem floor_pos (cursor : Nat) (frame : Frame) (below : List Frame) :
    machine.weight cursor (pressure cursor frame) below <
      machine.floor cursor (frame :: below) := by
  have : 0 < (machine.stride * machine.untried frame + 1) * machine.unit below :=
    Nat.mul_pos (Nat.succ_pos _) (machine.unit_pos below)
  rw [floor]
  omega

structure Fails (state after : State) (weight : Nat) : Prop where
  tokens : after.tokens = state.tokens
  cursor : after.cursor = state.cursor
  floor : machine.floor state.cursor after.stack ≤ weight

theorem perform_fails {state : State} {frame : Frame} {below : List Frame} {move : Move}
    (ok : (machine.perform state frame below move).result = .ok false) :
    machine.Fails state (machine.perform state frame below move).after
      (machine.weight state.cursor none (frame :: below)) := by
  cases move with
  | complete =>
    simp only [perform, complete] at ok
    split at ok
    · split at ok <;> cases ok
    · cases ok
  | shift token => cases ok
  | leave => cases ok
  | attempt symbol =>
    unfold perform at ok
    dsimp only at ok
    split at ok
    · cases ok
    · rename_i failed
      rw [failed] at ok
      cases ok
  | enter symbol origin =>
    unfold perform at ok ⊢
    dsimp only at ok ⊢
    split at ok
    · rename_i result
      obtain ⟨sameTokens, sameCursor, _, ⟨_, stack⟩ | pushed⟩ := machine.push_after result
      · obtain ⟨failTokens, failCursor, failStack⟩ := fail_keeps
          { (machine.push symbol origin { state with
              stack := { frame with progressed := none } :: below }).after with
            stack := { frame with progressed := none } :: below }
          (State.symbols { (machine.push symbol origin { state with
              stack := { frame with progressed := none } :: below }).after with
            stack := { frame with progressed := none } :: below })
          (machine.expectations symbol)
        refine ⟨failTokens.trans sameTokens, failCursor.trans sameCursor, ?_⟩
        unfold stuck
        dsimp only
        rw [failStack]
        exact machine.floor_le_weight none (frame :: below)
      · exact nomatch pushed.1
    · rename_i other
      exact absurd ok other
  | stuck expected =>
    obtain ⟨tokens, cursor, stack⟩ := fail_keeps { state with stack := frame :: below }
      (State.symbols { state with stack := frame :: below }) expected
    refine ⟨tokens, cursor, ?_⟩
    simp only [perform, Outcome.done, stuck]
    rw [stack]
    exact machine.floor_le_weight none _

theorem act_fails {state : State} {frame : Frame} {below : List Frame} {token : Option Token}
    (ok : (machine.act (machine.table frame.symbol) token state frame below).result =
      .ok false) :
    machine.Fails state
      (machine.act (machine.table frame.symbol) token state frame below).after
      (machine.weight state.cursor none (frame :: below)) := by
  unfold act at ok ⊢
  cases found : machine.predicted? (machine.table frame.symbol) token frame with
  | none =>
    simp only [found] at ok ⊢
    exact machine.perform_fails ok
  | some production =>
    simp only [found] at ok ⊢
    have lower := machine.rank_lt_of_untried_lt none (machine.untried_predicted_lt found)
    have failed := machine.perform_fails ok
    exact ⟨failed.tokens, failed.cursor, Nat.le_trans failed.floor
      (Nat.le_of_lt (machine.weight_top_lt rfl rfl (Nat.lt_of_lt_of_le lower.1 lower.2)))⟩

theorem unwind_lightens {state : State} {stack : List Frame}
    (ok : (machine.unwind state stack).result = .ok true) :
    (machine.unwind state stack).after.tokens = state.tokens ∧
      (machine.unwind state stack).after.cursor = state.cursor ∧
      machine.burden (machine.unwind state stack).after < machine.floor state.cursor stack := by
  induction stack generalizing state with
  | nil => cases ok
  | cons frame below ih =>
    unfold unwind at ok ⊢
    cases known : machine.grammar.productionsOf frame.symbol with
    | error unknown =>
      simp only [known] at ok
      cases ok
    | ok productions =>
      simp only [known] at ok ⊢
      split at ok
      · rename_i more
        rw [if_pos more]
        -- The next production weighs less than what was left of the current one.
        refine ⟨rfl, rfl, ?_⟩
        have fewer := machine.untried_next_lt ((machine.table_eq known).symm ▸ more.2)
        have lower := (machine.rank_lt_of_untried_lt none fewer).1
        have := Nat.mul_lt_mul_of_pos_right (Nat.add_lt_add_right lower 1)
          (machine.unit_pos below)
        show machine.weight state.cursor none (frame.select frame.nextProduction :: below) < _
        rw [weight_cons, floor]
        have same : pressure state.cursor (frame.select frame.nextProduction) =
            pressure state.cursor frame := rfl
        rw [same]
        omega
      · rename_i exhausted
        rw [if_neg exhausted]
        split at ok
        · rename_i held
          rw [if_pos held]
          split at ok
          · rename_i absent
            rw [if_pos absent]
            obtain ⟨tentative, uncommitted⟩ := absent
            have here : ¬ frame.start < state.cursor := of_decide_eq_false uncommitted
            have heavy := machine.floor_pos state.cursor frame below
            cases origin : frame.origin with
            | goal => simp [origin, Origin.tentative] at tentative
            | expand => simp [origin, Origin.tentative] at tentative
            | optional =>
              simp only [origin] at ok ⊢
              refine ⟨trivial, trivial, ?_⟩
              have gentle : pressure state.cursor frame = none := by
                unfold pressure
                rw [origin, if_pos rfl]
              rw [gentle] at heavy
              exact heavy
            | again =>
              cases below with
              | nil => simp [origin] at ok
              | cons parent rest =>
                simp only [origin] at ok ⊢
                refine ⟨trivial, trivial, Nat.lt_of_le_of_lt ?_ heavy⟩
                have gentle : pressure state.cursor frame = some 2 := by
                  unfold pressure
                  rw [origin, if_neg (by decide), if_neg here]
                rw [gentle]
                exact machine.weight_top_le rfl rfl (machine.rank_advance_le parent (by simp))
          · rename_i present
            rw [if_neg present]
            -- The frame goes, and the frames below weigh less without it.
            obtain ⟨tokens, cursor, lighter⟩ := ih ok
            refine ⟨tokens, cursor, Nat.lt_of_lt_of_le lighter ?_⟩
            exact Nat.le_trans (machine.floor_le_weight _ below)
              (Nat.le_of_lt (machine.floor_pos state.cursor frame below))
        · cases ok

/-- A step that answers has made a move of the frame on top. -/
theorem act_of_step {state : State} {value : Bool} (ok : (machine.step state).result = .ok value) :
    ∃ frame below tokens, state.stack = frame :: below ∧ state.tokens = some tokens ∧
      (machine.act (machine.table frame.symbol) tokens[state.cursor]? state frame
        below).result = .ok value ∧
      (machine.step state).after =
        (machine.act (machine.table frame.symbol) tokens[state.cursor]? state frame
          below).after := by
  unfold step at ok ⊢
  cases stack : state.stack with
  | nil =>
    simp only [stack] at ok
    cases ok
  | cons frame below =>
    simp only [stack] at ok ⊢
    cases known : machine.grammar.productionsOf frame.symbol with
    | error unknown =>
      simp only [known] at ok
      cases ok
    | ok productions =>
      cases installed : state.tokens with
      | none =>
        simp only [known, installed] at ok
        cases ok
      | some tokens =>
        simp only [known, installed] at ok ⊢
        refine ⟨frame, below, tokens, rfl, rfl, ?_, ?_⟩
        · rw [machine.table_eq known]
          exact ok
        · rw [machine.table_eq known]
          rfl

/-- A round that can go on leaves less to do. -/
theorem eases_of_round (state : State) (ok : (machine.round state).result = .ok true) :
    machine.Eases state (machine.round state).after := by
  unfold round at ok ⊢
  dsimp only at ok ⊢
  split at ok
  · rename_i failed
    obtain ⟨frame, below, tokens, stack, installed, acted, after⟩ := machine.act_of_step failed
    have fails := machine.act_fails acted
    rw [← after] at fails
    unfold backtrack at ok ⊢
    obtain ⟨sameTokens, sameCursor, lighter⟩ := machine.unwind_lightens ok
    refine Relieves.eases machine ⟨sameTokens.trans fails.tokens,
      Or.inr ⟨sameCursor.trans fails.cursor, ?_⟩⟩
    rw [fails.cursor] at lighter
    unfold burden at lighter ⊢
    rw [stack]
    exact Nat.lt_of_lt_of_le lighter fails.floor
  · obtain ⟨frame, below, tokens, stack, installed, acted, after⟩ := machine.act_of_step ok
    have relieved := machine.act_relieves installed acted
    rw [← after, ← stack] at relieved
    exact relieved.eases

end Rounds

end Machine

end Descent
