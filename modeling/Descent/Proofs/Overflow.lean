import Mathlib
import Descent.Proofs.Depth

/-! What a step leaves behind when the stack has no room.

A step gets the frame on top ready before it pushes. Where there is no room for the push, that
much of the step is done and nothing else: the frame may have been given its production, and an
optional slot is passed. A required slot is therefore refused again and again. An optional one is
refused once, and the next step goes on behind it.
-/

set_option autoImplicit false

namespace Descent

namespace Machine

/-- The frame has a production, or is given the one that the lookahead token predicts. -/
inductive Chooses (machine : Machine) (token : Option Token) (cursor : Nat) (frame : Frame) :
    Frame → List Choice → Prop where
  | selected (selected : frame.production ≠ none) : Chooses machine token cursor frame frame []
  | predicted {production : Nat} (unselected : frame.production = none)
      (predicted : machine.predicted? (machine.table frame.symbol) token frame = some production) :
      Chooses machine token cursor frame { frame with production := some production }
        [⟨frame.symbol, production, cursor⟩]

/-- What is left of a frame whose slot calls for a nonterminal that does not fit. -/
inductive Strands (machine : Machine) (frame : Frame) : Frame → Prop where
  | required {symbol : NonTerminal}
      (slot : machine.element? frame = some (.required (.nonTerminal symbol))) :
      Strands machine frame frame
  | optional {symbol : NonTerminal}
      (slot : machine.element? frame = some (.optional (some (.nonTerminal symbol)))) :
      Strands machine frame { frame with element := frame.element + 1 }

/-- The state but for the frame on top and the latest choices. -/
def stranded (state : State) (frame : Frame) (below : List Frame) (choices : List Choice) : State :=
  { state with stack := frame :: below, trace := choices ++ state.trace }

/-- A step found the stack full. What it tells is of the state that it was taken from, and what it
left is that state but for the frame on top. At a required slot another step would tell the same and
change nothing. -/
structure Strayed (machine : Machine) (tokens : List Token) (state : State)
    (exceeded : DepthExceeded) : Prop where
  told : exceeded = ⟨machine.maxDepth, state.cursor, state.symbols⟩
  full : state.stack.length = machine.maxDepth
  left : ∃ frame below chosen choices passed, state.stack = frame :: below ∧
    machine.Chooses tokens[state.cursor]? state.cursor frame chosen choices ∧
      machine.Strands chosen passed ∧
      (machine.step state).after = stranded state passed below choices ∧
      ∀ symbol, machine.element? chosen = some (.required symbol) →
        Gives (machine.step (stranded state passed below choices))
          (.error (.depthExceeded exceeded)) (stranded state passed below choices)

/-- There is no verdict on an expansion for which there was no room. -/
def Unjudged (machine : Machine) (state : State) : Prop :=
  machine.maxDepth ≤ state.stack.length →
    ∀ frame, state.stack.head? = some frame → frame.progressed = none

section Moves

theorem slot_of_move (machine : Machine) (token : Option Token) (frame : Frame) :
    match machine.move (machine.table frame.symbol) token frame with
    | .enter _ _ => (∃ called, machine.element? frame = some (.required (.nonTerminal called))) ∧
        frame.progressed ≠ some false
    | .attempt _ => ∃ called, machine.element? frame = some (.optional (some (.nonTerminal called)))
    | _ => True := by
  unfold element? current? move
  cases frame.production.bind ((machine.table frame.symbol)[·]?) with
  | none => trivial
  | some production =>
    dsimp only [Option.bind_some]
    cases production[frame.element]? with
    | none => trivial
    | some element =>
      rcases element with (terminal | called) | (_ | terminal | called)
      case required.nonTerminal =>
        rcases frame.progressed with _ | _ | _
        · exact ⟨⟨called, rfl⟩, nofun⟩
        · trivial
        · exact ⟨⟨called, rfl⟩, nofun⟩
      case optional.some.nonTerminal => exact ⟨called, rfl⟩
      case optional.none => trivial
      -- Whether a terminal matches or not, nothing is called for.
      all_goals
        dsimp only
        cases token with
        | none => trivial
        | some token =>
          dsimp only
          by_cases accepted : terminal.accepts token = true
          · rw [if_pos accepted]
            trivial
          · rw [if_neg accepted]
            trivial

theorem complete_fits (state : State) (frame : Frame) (below : List Frame) :
    ¬Overflows (complete state frame below) := by
  rintro ⟨exceeded, overflow⟩
  unfold complete at overflow
  split at overflow
  · cases below <;> cases overflow
  · cases overflow

/-- Only a push can overflow. -/
theorem perform_overflows {machine : Machine} {state : State} {frame : Frame}
    {below : List Frame} {move : Move}
    (overflows : Overflows (machine.perform state frame below move)) :
    (∃ symbol origin, move = .enter symbol origin) ∨ ∃ symbol, move = .attempt symbol := by
  cases move with
  | enter symbol origin => exact .inl ⟨symbol, origin, rfl⟩
  | attempt symbol => exact .inr ⟨symbol, rfl⟩
  | complete => exact absurd overflows (complete_fits state frame below)
  | shift | leave | stuck =>
    obtain ⟨exceeded, overflow⟩ := overflows
    cases overflow

end Moves

section Unjudged

variable {machine : Machine} {tokens : List Token} {goal : String} {before after state : State}

/-- A verdict comes from a child, and where a child has been there is room. -/
theorem Unjudged.turn (standing : machine.Standing tokens goal before)
    (turn : machine.Turn tokens before after) (unjudged : machine.Unjudged before) :
    machine.Unjudged after := by
  have lower {frame : Frame} {below other : List Frame} (stack : before.stack = frame :: below)
      (same : other.length = below.length) (full : machine.maxDepth ≤ other.length) : False := by
    have depth := standing.depth
    rw [stack, List.length_cons] at depth
    omega
  cases turn with
  | select | shift | close | skip | enter | attempt | overflow | overflowOptional =>
    rintro _ _ ⟨⟩
    rfl
  | finish stack => exact fun _ _ head => nomatch head
  | adopt stack | unrepeated stack => exact fun full => (lower stack rfl full).elim
  | drop stack | omitted stack => exact fun full => (lower stack rfl full).elim
  | collapse => exact fun _ _ head => nomatch head
  | fail | leftover =>
    obtain ⟨failure, same⟩ := fail_eq before _ _
    rw [same]
    exact unjudged

theorem Reached.unjudged (known : machine.Knows goal)
    (reached : machine.Reached tokens goal state) : machine.Unjudged state := by
  refine reached.invariant known ?_ Unjudged.turn
  refine pushGoal_cases (fun _ _ _ head => nomatch head) fun _ _ _ head => ?_
  cases head
  rfl

end Unjudged

namespace Standing

variable {machine : Machine} {tokens : List Token} {goal : String} {state : State}
  {frame : Frame} {below : List Frame}

theorem step_selected_full (standing : machine.Standing tokens goal state)
    (stack : state.stack = frame :: below) (selected : frame.production ≠ none)
    (unjudged : machine.maxDepth ≤ state.stack.length → frame.progressed = none)
    (overflows : Overflows (machine.step state)) :
    machine.maxDepth ≤ state.stack.length ∧ ∃ passed, machine.Strands frame passed ∧
      Gives (machine.step state) (.error (machine.tooDeep state))
        { state with stack := passed :: below } := by
  obtain ⟨exceeded, overflow⟩ := overflows
  -- With room the step would not have broken off.
  have full {value : Bool} {after : State} (fits : state.stack.length < machine.maxDepth →
      Gives (machine.step state) (.ok value) after) : machine.maxDepth ≤ state.stack.length :=
    Nat.le_of_not_lt fun room => nomatch overflow.symm.trans (fits room).1
  have acted := standing.step_perform stack (predicted?_selected selected _) rfl
  have calls := machine.slot_of_move tokens[state.cursor]? frame
  rcases perform_overflows ⟨exceeded, acted.1.symm.trans overflow⟩ with
    ⟨symbol, origin, enters⟩ | ⟨symbol, attempts⟩
  · rw [enters] at calls
    obtain ⟨⟨called, slot⟩, wanted⟩ := calls
    have reason : ∃ origin, frame.progressed = none ∧ origin = .expand ∨
        frame.progressed = some true ∧ origin = Origin.again := by
      rcases progressed : frame.progressed with _ | _ | _
      · exact ⟨_, .inl ⟨rfl, rfl⟩⟩
      · exact absurd progressed wanted
      · exact ⟨_, .inr ⟨rfl, rfl⟩⟩
    obtain ⟨_, reason⟩ := reason
    have deep := full (standing.step_enter stack slot reason)
    have same : { frame with progressed := none } = frame := by
      rw [← unjudged deep]
    have stepped := standing.step_enter_full stack slot wanted deep
    rw [same] at stepped
    exact ⟨deep, frame, .required slot, stepped⟩
  · rw [attempts] at calls
    obtain ⟨called, slot⟩ := calls
    have deep := full (standing.step_attempt stack slot)
    have passed : frame.advance = { frame with element := frame.element + 1 } := by
      unfold Frame.advance
      rw [← unjudged deep]
    have stepped := standing.step_attempt_full stack slot deep
    rw [passed] at stepped
    exact ⟨deep, _, .optional slot, stepped⟩

theorem strayed_selected (standing : machine.Standing tokens goal state)
    (stack : state.stack = frame :: below) {exceeded : DepthExceeded}
    (overflow : (machine.step state).result = .error (.depthExceeded exceeded)) {held : State}
    {chosen : Frame} {choices : List Choice} (selected : chosen.production ≠ none)
    (unjudged : machine.maxDepth ≤ state.stack.length → chosen.progressed = none)
    (chooses : machine.Chooses tokens[state.cursor]? state.cursor frame chosen choices)
    (same : held = stranded state chosen below choices) (holds : machine.Standing tokens goal held)
    (stepped : Gives (machine.step state) (machine.step held).result (machine.step held).after) :
    machine.Strayed tokens state exceeded := by
  subst same
  have symbols : (stranded state chosen below choices).symbols = state.symbols := by
    have alike : chosen.symbol = frame.symbol := by
      cases chooses <;> rfl
    unfold State.symbols
    rw [stack]
    exact congrArg (fun symbol => (symbol :: below.map Frame.symbol).reverse) alike
  have height : (stranded state chosen below choices).stack.length = state.stack.length := by
    rw [stack]
    rfl
  obtain ⟨full, passed, strands, gives⟩ :=
    holds.step_selected_full rfl selected (height ▸ unjudged) ⟨exceeded, stepped.1.symm.trans overflow⟩
  have told : machine.tooDeep (stranded state chosen below choices) = .depthExceeded exceeded :=
    Except.error.inj (gives.1.symm.trans (stepped.1.symm.trans overflow))
  refine ⟨?_, Nat.le_antisymm standing.depth (height ▸ full), frame, below, chosen, choices, passed,
    stack, chooses, strands, stepped.2.trans gives.2, fun symbol required => ?_⟩
  · unfold tooDeep at told
    rw [symbols] at told
    exact (Fault.depthExceeded.inj told).symm
  · rw [← told]
    cases strands with
    | required => exact gives
    | optional slot => cases required.symm.trans slot

theorem step_strayed (standing : machine.Standing tokens goal state)
    (unjudged : machine.Unjudged state) {exceeded : DepthExceeded}
    (overflow : (machine.step state).result = .error (.depthExceeded exceeded)) :
    machine.Strayed tokens state exceeded := by
  cases stack : state.stack with
  | nil => cases overflow.symm.trans (step_empty stack).1
  | cons frame below =>
    by_cases selected : frame.production = none
    · cases predicted :
          machine.predicted? (machine.table frame.symbol) tokens[state.cursor]? frame with
      | none => cases overflow.symm.trans (standing.step_unselected stack selected predicted).1
      | some production =>
        obtain ⟨_, listed⟩ := predicted?_eq_some predicted
        -- A frame without a production is blank, so that a choice changes nothing else of it.
        obtain ⟨element, progressed, children⟩ := (standing.top_upright stack).blank selected
        have chosen : frame.select production = { frame with production := some production } := by
          unfold Frame.select
          rw [← element, ← progressed, ← children]
        have fresh : { frame with production := some production }.progressed = none := progressed
        refine standing.strayed_selected stack overflow (Option.some_ne_none production)
          (fun _ => fresh) (.predicted selected predicted) ?_
          (standing.select stack listed) (standing.step_predicted stack predicted listed)
        unfold State.select
        rw [chosen]
        rfl
    · refine standing.strayed_selected stack overflow selected
        (fun full => unjudged full frame (by rw [stack]; rfl)) (.selected selected) ?_ standing (.self _)
      unfold stranded
      rw [← stack]
      rfl

end Standing

theorem step_goal_unknown {machine : Machine} {tokens : List Token} {goal : String}
    (unknown : ¬machine.Knows goal) :
    ¬Overflows (machine.step (machine.pushGoal goal (.initial tokens)).after) := by
  rintro ⟨exceeded, overflow⟩
  revert overflow
  refine pushGoal_cases (fun _ overflow => ?_) fun _ overflow => ?_
  · cases overflow.symm.trans (step_empty rfl).1
  · cases overflow.symm.trans (step_unknown rfl unknown).1

/-- A step that overflows tells the cursor and the symbols of a full stack. It leaves the state as it
was, but that the frame on top may have been given its production, and has passed its slot if that is
an optional one. -/
theorem reached_strayed {machine : Machine} {tokens : List Token} {goal : String} {state : State}
    {exceeded : DepthExceeded} (reached : machine.Reached tokens goal state)
    (overflow : (machine.step state).result = .error (.depthExceeded exceeded)) :
    machine.Strayed tokens state exceeded := by
  by_cases known : machine.Knows goal
  · exact (reached.standing known).step_strayed (reached.unjudged known) overflow
  · rw [reached.unchanged (inert_goal known)] at overflow
    exact absurd ⟨exceeded, overflow⟩ (step_goal_unknown known)

end Machine

/-! Lodgers are guests that can be left out: an `S` is perhaps a `T`, which is a `d`, and then
a `c`.
-/

namespace Lodger

def location : Location := ⟨"lodger", 1⟩

def host : NonTerminal := ⟨0, "S", location⟩

def guest : NonTerminal := ⟨1, "T", location⟩

def terminal (lexeme : String) : Terminal := .of (.lexeme lexeme) none location

def rules : List Definition :=
  [⟨host, [[.optional (some (.nonTerminal guest)), .required (.terminal (terminal "c"))]],
      by decide⟩,
    ⟨guest, [[.required (.terminal (terminal "d"))]], by decide⟩]

def grammar : Grammar where
  name := "lodger"
  start := host
  rules := rules
  openings := OpeningTable.ofRules rules
  start_mem := by decide
  closed := by
    intro rule member called mentioned
    simp only [rules, List.mem_cons, List.not_mem_nil, or_false] at member
    rcases member with rfl | rfl <;> revert called <;> decide
  names_distinct := by decide
  openings_eq := rfl

def machine : Machine := ⟨grammar, 1⟩

def waiting : State :=
  (machine.backtrack
    (machine.step (machine.pushGoal "S" (.initial (Brackets.tokens ["c"]))).after).after).after

theorem waiting_reached : machine.Reached (Brackets.tokens ["c"]) "S" waiting :=
  .backtrack (.step .goal)

end Lodger

namespace Machine

/-- The `d` selects the production of the `S`, and the `T` that it begins does not fit. Nor does a
bracket inside a bracket, where nothing is left to be selected. -/
theorem reached_strayed_lodger :
    let tokens := Brackets.tokens ["d", "c"]
    let goal := (Lodger.machine.pushGoal "S" (.initial tokens)).after
    let opening := Brackets.tokens ["a"]
    let nested := ((Brackets.machine 1).step
      ((Brackets.machine 1).pushGoal "S" (.initial opening)).after).after
    Lodger.machine.Reached tokens "S" goal ∧
      (Lodger.machine.step goal).result = .error (.depthExceeded ⟨1, 0, ["S"]⟩) ∧
      Lodger.machine.Strayed tokens goal ⟨1, 0, ["S"]⟩ ∧
      (Brackets.machine 1).Reached opening "S" nested ∧
      ((Brackets.machine 1).step nested).result = .error (.depthExceeded ⟨1, 1, ["S"]⟩) ∧
      (Brackets.machine 1).Strayed opening nested ⟨1, 1, ["S"]⟩ := by
  intro tokens goal opening nested
  have overflow : (Lodger.machine.step goal).result = .error (.depthExceeded ⟨1, 0, ["S"]⟩) := by
    cbv
  have inside : ((Brackets.machine 1).step nested).result =
      .error (.depthExceeded ⟨1, 1, ["S"]⟩) := by
    cbv
  exact ⟨.goal, overflow, reached_strayed .goal overflow, .step .goal, inside,
    reached_strayed (.step .goal) inside⟩

/-- The `T` does not fit and is passed all the same, so that the next step reads the `c`. -/
theorem reached_strays :
    Lodger.machine.Reached (Brackets.tokens ["c"]) "S" Lodger.waiting ∧
      (Lodger.machine.step Lodger.waiting).result = .error (.depthExceeded ⟨1, 0, ["S"]⟩) ∧
      (Lodger.machine.step Lodger.waiting).after ≠ Lodger.waiting ∧
      Lodger.waiting.stack.map Frame.element = [0] ∧
      (Lodger.machine.step Lodger.waiting).after.stack.map Frame.element = [1] ∧
      (Lodger.machine.step (Lodger.machine.step Lodger.waiting).after).result = .ok true ∧
      (Lodger.machine.step (Lodger.machine.step Lodger.waiting).after).after.cursor = 1 := by
  have before : Lodger.waiting.stack.map Frame.element = [0] := by cbv
  have passed : (Lodger.machine.step Lodger.waiting).after.stack.map Frame.element = [1] := by cbv
  refine ⟨Lodger.waiting_reached, by cbv, fun same => ?_, before, passed, by cbv, by cbv⟩
  rw [same, before] at passed
  cases passed

end Machine

end Descent
