import Mathlib.Logic.Relation
import Descent.Proofs.Stack.Turn

/-! Steps and backtracks of a standing state, case by case.

There is one equation for each thing that a step or a backtrack can do. Together
they say that both are made of turns, and that the only fault of a step is that the
stack is full.
-/

set_option autoImplicit false

namespace Descent

def State.Live (state : State) : Prop := state.stack ≠ [] ∨ state.result ≠ none

namespace Machine

/-- How an operation ended and what it left behind, the log apart. -/
def Gives {α : Type} (outcome : Outcome α) (result : Except Fault α) (after : State) : Prop :=
  outcome.result = result ∧ outcome.after = after

theorem Gives.self {α : Type} (outcome : Outcome α) :
    Gives outcome outcome.result outcome.after := ⟨rfl, rfl⟩

def tooDeep (machine : Machine) (state : State) : Fault :=
  .depthExceeded ⟨machine.maxDepth, state.cursor, state.symbols⟩

abbrev Turns (machine : Machine) (tokens : List Token) : State → State → Prop :=
  Relation.ReflTransGen (machine.Turn tokens)

/-- An answer, or the fault of a full stack. -/
def Sound {α : Type} (result : Except Fault α) : Prop :=
  (∃ value, result = .ok value) ∨ ∃ exceeded, result = .error (.depthExceeded exceeded)

/-- What a step comes to once the frame on top has a production, or has none to choose. -/
inductive Decided (machine : Machine) (tokens : List Token) (state : State) :
    Except Fault Bool → State → Prop where
  | moved {after : State} (turn : machine.Turn tokens state after)
      (live : after.Live) : Decided machine tokens state (.ok true) after
  | stuck {frame : Frame} {below : List Frame} {expected : List Expectation}
      (stack : state.stack = frame :: below)
      (stuck : machine.Stuck tokens[state.cursor]? frame expected) :
      Decided machine tokens state (.ok false) (state.fail state.symbols expected)
  | deep {exceeded : DepthExceeded} {after : State} (turn : machine.Turn tokens state after) :
      Decided machine tokens state (.error (.depthExceeded exceeded)) after

section Frames

variable {machine : Machine} {state : State} {frame : Frame}

theorem Decided.turn {tokens : List Token} {result : Except Fault Bool} {after : State}
    (decided : machine.Decided tokens state result after) : machine.Turn tokens state after := by
  cases decided with
  | moved turn | deep turn => exact turn
  | stuck stack stuck => exact .fail stack stuck

theorem Decided.sound {tokens : List Token} {result : Except Fault Bool} {after : State}
    (decided : machine.Decided tokens state result after) : Sound result := by
  cases decided with
  | moved | stuck => exact .inl ⟨_, rfl⟩
  | deep => exact .inr ⟨_, rfl⟩

theorem predicted?_selected (selected : frame.production ≠ none) (token : Option Token) :
    machine.predicted? (machine.table frame.symbol) token frame = none := by
  unfold predicted?
  cases production : frame.production with
  | none => exact absurd production selected
  | some production => cases token <;> rfl

theorem predicted?_eq_some {token : Option Token} {production : Nat}
    (predicted : machine.predicted? (machine.table frame.symbol) token frame = some production) :
    frame.production = none ∧ production < (machine.table frame.symbol).length := by
  unfold predicted? at predicted
  split at predicted
  · rename_i token unselected
    exact ⟨unselected, (List.findIdx?_eq_some_iff_getElem.mp predicted).1⟩
  · cases predicted

/-- Where a backtrack stands is said by its list of frames alone. -/
theorem unwind_congr (machine : Machine) (state : State) (other frames : List Frame) :
    machine.unwind { state with stack := other } frames = machine.unwind state frames := by
  induction frames generalizing state with
  | nil => rfl
  | cons frame below ih =>
    unfold unwind
    cases machine.grammar.productionsOf frame.symbol with
    | error unknown => rfl
    | ok productions =>
      have deeper := ih { state with markers := state.markers.erase frame.marker }
      dsimp only at deeper ⊢
      rw [deeper]
      rfl

theorem step_act {below : List Frame} {tokens : List Token} (stack : state.stack = frame :: below)
    (known : machine.Knows frame.symbol) (installed : state.tokens = some tokens) :
    Gives (machine.step state)
      (machine.act (machine.table frame.symbol) tokens[state.cursor]? state frame below).result
      (machine.act (machine.table frame.symbol) tokens[state.cursor]? state frame below).after := by
  unfold step
  rw [stack]
  simp only [productionsOf_eq known, installed]
  exact ⟨rfl, rfl⟩

theorem backtrack_empty (machine : Machine) {state : State} (stack : state.stack = []) :
    Gives (machine.backtrack state) (.ok false) state := by
  unfold backtrack
  rw [stack]
  refine ⟨rfl, ?_⟩
  show { state with stack := [] } = state
  rw [← stack]

end Frames

namespace Standing

variable {machine : Machine} {tokens : List Token} {goal : String} {state : State}
  {frame : Frame} {below : List Frame}

section Step

theorem step_act (standing : machine.Standing tokens goal state)
    (stack : state.stack = frame :: below) :
    Gives (machine.step state)
      (machine.act (machine.table frame.symbol) tokens[state.cursor]? state frame below).result
      (machine.act (machine.table frame.symbol) tokens[state.cursor]? state frame below).after :=
  Machine.step_act stack (standing.top_upright stack).known standing.installed

theorem step_perform (standing : machine.Standing tokens goal state)
    (stack : state.stack = frame :: below)
    (unpredicted : machine.predicted? (machine.table frame.symbol) tokens[state.cursor]? frame =
      none) {move : Move}
    (moves : machine.move (machine.table frame.symbol) tokens[state.cursor]? frame = move) :
    Gives (machine.step state) (machine.perform state frame below move).result
      (machine.perform state frame below move).after := by
  have acted := standing.step_act stack
  unfold act at acted
  rw [unpredicted, moves] at acted
  exact acted

/-- A prediction comes to the same as a choice followed by a step. -/
theorem step_predicted (standing : machine.Standing tokens goal state)
    (stack : state.stack = frame :: below) {production : Nat}
    (predicted : machine.predicted? (machine.table frame.symbol) tokens[state.cursor]? frame =
      some production) (listed : production < (machine.table frame.symbol).length) :
    Gives (machine.step state) (machine.step (state.select frame below production)).result
      (machine.step (state.select frame below production)).after := by
  have selected : (frame.select production).production ≠ none := nofun
  have chosen := (standing.select stack listed).step_perform rfl
    (predicted?_selected selected _) rfl
  have acted := standing.step_act stack
  unfold act at acted
  rw [predicted] at acted
  exact ⟨acted.1.trans chosen.1.symm, acted.2.trans chosen.2.symm⟩

theorem step_unselected (standing : machine.Standing tokens goal state)
    (stack : state.stack = frame :: below) (unselected : frame.production = none)
    (unpredicted : machine.predicted? (machine.table frame.symbol) tokens[state.cursor]? frame =
      none) :
    Gives (machine.step state) (.ok false)
      (state.fail state.symbols (machine.expectations frame.symbol)) := by
  have moves : machine.move (machine.table frame.symbol) tokens[state.cursor]? frame =
      .stuck (machine.expectations frame.symbol) := by
    unfold move
    rw [unselected]
    rfl
  have stepped := standing.step_perform stack unpredicted moves
  refine ⟨stepped.1, stepped.2.trans ?_⟩
  show stuck state frame below _ = _
  unfold stuck
  rw [← stack]

theorem step_element (standing : machine.Standing tokens goal state)
    (stack : state.stack = frame :: below) {element : Element}
    (slot : machine.element? frame = some element) (move : Move)
    (moves : ∀ production : Production,
      frame.production.bind ((machine.table frame.symbol)[·]?) = some production →
        production[frame.element]? = some element →
          machine.move (machine.table frame.symbol) tokens[state.cursor]? frame = move) :
    Gives (machine.step state) (machine.perform state frame below move).result
      (machine.perform state frame below move).after := by
  obtain ⟨production, current, found⟩ := element?_eq_some slot
  exact standing.step_perform stack (predicted?_selected (selected_of_element slot) _)
    (moves production current found)

theorem step_shift (standing : machine.Standing tokens goal state)
    (stack : state.stack = frame :: below) {token : Token} {terminal : Terminal}
    (there : tokens[state.cursor]? = some token)
    (slot : machine.element? frame = some (.required (.terminal terminal)) ∨
      machine.element? frame = some (.optional (some (.terminal terminal))))
    (accepted : terminal.accepts token = true) :
    Gives (machine.step state) (.ok true) (Machine.shift state token frame below) := by
  rcases slot with slot | slot
  · apply standing.step_element stack slot (.shift token)
    intro production current found
    simp only [Machine.move, current, found, there, accepted, if_true]
  · apply standing.step_element stack slot (.shift token)
    intro production current found
    simp only [Machine.move, current, found, there, accepted, if_true]

theorem step_mismatch (standing : machine.Standing tokens goal state)
    (stack : state.stack = frame :: below) {terminal : Terminal}
    (slot : machine.element? frame = some (.required (.terminal terminal)))
    (mismatch : Mismatch terminal tokens[state.cursor]?) :
    Gives (machine.step state) (.ok false)
      (state.fail state.symbols [.terminal terminal.criterion]) := by
  have stepped := standing.step_element stack slot (.stuck [.terminal terminal.criterion])
    fun production current found => by
      simp only [Machine.move, current, found]
      cases there : tokens[state.cursor]? with
      | none => rfl
      | some token => simp [mismatch token there]
  refine ⟨stepped.1, stepped.2.trans ?_⟩
  show stuck state frame below _ = _
  unfold stuck
  rw [← stack]

theorem step_skip (standing : machine.Standing tokens goal state)
    (stack : state.stack = frame :: below) {symbol : Option Symbol}
    (slot : machine.element? frame = some (.optional symbol))
    (absent : symbol = none ∨ ∃ terminal, symbol = some (.terminal terminal) ∧
      Mismatch terminal tokens[state.cursor]?) :
    Gives (machine.step state) (.ok true) { state with stack := frame.advance :: below } := by
  apply standing.step_element stack slot .leave
  intro production current found
  rcases absent with rfl | ⟨terminal, rfl, mismatch⟩
  · simp only [Machine.move, current, found]
  · simp only [Machine.move, current, found]
    cases there : tokens[state.cursor]? with
    | none => rfl
    | some token => simp [mismatch token there]

theorem step_close (standing : machine.Standing tokens goal state)
    (stack : state.stack = frame :: below) {symbol : NonTerminal}
    (slot : machine.element? frame = some (.required (.nonTerminal symbol)))
    (idle : frame.progressed = some false) :
    Gives (machine.step state) (.ok true) { state with stack := frame.advance :: below } := by
  apply standing.step_element stack slot .leave
  intro production current found
  simp only [Machine.move, current, found, idle]

theorem push_room (standing : machine.Standing tokens goal state)
    (stack : state.stack = frame :: below) (room : state.stack.length < machine.maxDepth)
    (symbol : String) (origin : Origin) (slot : Frame) :
    machine.push symbol origin { state with stack := slot :: below } =
      .done (entered state symbol origin (slot :: below)) true := by
  rw [stack] at room
  unfold push
  exact (if_neg (standing.marker_fresh slot stack symbol)).trans (if_neg (Nat.not_le_of_lt room))

theorem push_full (standing : machine.Standing tokens goal state)
    (stack : state.stack = frame :: below) (full : machine.maxDepth ≤ state.stack.length)
    (symbol : String) (origin : Origin) {slot : Frame} (alike : Alike frame slot) :
    machine.push symbol origin { state with stack := slot :: below } =
      .raise { state with stack := slot :: below } (machine.tooDeep state) := by
  have symbols : ({ state with stack := slot :: below } : State).symbols = state.symbols := by
    unfold State.symbols
    rw [stack, List.map_cons, List.map_cons, alike.symbol]
  rw [stack] at full
  unfold push
  refine (if_neg (standing.marker_fresh slot stack symbol)).trans ((if_pos full).trans ?_)
  rw [symbols]
  rfl

section Enter

variable {symbol : NonTerminal}

theorem step_enter_move (standing : machine.Standing tokens goal state)
    (stack : state.stack = frame :: below)
    (slot : machine.element? frame = some (.required (.nonTerminal symbol))) {origin : Origin}
    (reason : frame.progressed = none ∧ origin = .expand ∨
      frame.progressed = some true ∧ origin = .again) :
    Gives (machine.step state)
      (machine.perform state frame below (.enter symbol.name origin)).result
      (machine.perform state frame below (.enter symbol.name origin)).after := by
  apply standing.step_element stack slot _
  intro production current found
  rcases reason with ⟨progressed, rfl⟩ | ⟨progressed, rfl⟩
  · simp only [Machine.move, current, found, progressed]
  · simp only [Machine.move, current, found, progressed]

theorem step_enter (standing : machine.Standing tokens goal state)
    (stack : state.stack = frame :: below)
    (slot : machine.element? frame = some (.required (.nonTerminal symbol))) {origin : Origin}
    (reason : frame.progressed = none ∧ origin = .expand ∨
      frame.progressed = some true ∧ origin = .again)
    (room : state.stack.length < machine.maxDepth) :
    Gives (machine.step state) (.ok true)
      (entered state symbol.name origin ({ frame with progressed := none } :: below)) := by
  have stepped := standing.step_enter_move stack slot reason
  simp only [perform, standing.push_room stack room, Outcome.done] at stepped
  exact stepped

theorem step_enter_full (standing : machine.Standing tokens goal state)
    (stack : state.stack = frame :: below)
    (slot : machine.element? frame = some (.required (.nonTerminal symbol)))
    (wanted : frame.progressed ≠ some false) (full : machine.maxDepth ≤ state.stack.length) :
    Gives (machine.step state) (.error (machine.tooDeep state))
      { state with stack := { frame with progressed := none } :: below } := by
  have alike : Alike frame { frame with progressed := none } := ⟨rfl, rfl, rfl, rfl⟩
  have pushed := fun symbol origin => standing.push_full stack full symbol origin alike
  cases progressed : frame.progressed with
  | none =>
    have stepped := standing.step_enter_move stack slot (Or.inl ⟨progressed, rfl⟩)
    simp only [perform, pushed, Outcome.raise] at stepped
    exact stepped
  | some value =>
    cases value with
    | false => exact absurd progressed wanted
    | true =>
      have stepped := standing.step_enter_move stack slot (Or.inr ⟨progressed, rfl⟩)
      simp only [perform, pushed, Outcome.raise] at stepped
      exact stepped

theorem step_attempt_move (standing : machine.Standing tokens goal state)
    (stack : state.stack = frame :: below)
    (slot : machine.element? frame = some (.optional (some (.nonTerminal symbol)))) :
    Gives (machine.step state) (machine.perform state frame below (.attempt symbol.name)).result
      (machine.perform state frame below (.attempt symbol.name)).after :=
  standing.step_element stack slot _ fun _ current found => by
    simp only [Machine.move, current, found]

theorem step_attempt (standing : machine.Standing tokens goal state)
    (stack : state.stack = frame :: below)
    (slot : machine.element? frame = some (.optional (some (.nonTerminal symbol))))
    (room : state.stack.length < machine.maxDepth) :
    Gives (machine.step state) (.ok true)
      (entered state symbol.name .optional (frame.advance :: below)) := by
  have stepped := standing.step_attempt_move stack slot
  simp only [perform, standing.push_room stack room, Outcome.done] at stepped
  exact stepped

theorem step_attempt_full (standing : machine.Standing tokens goal state)
    (stack : state.stack = frame :: below)
    (slot : machine.element? frame = some (.optional (some (.nonTerminal symbol))))
    (full : machine.maxDepth ≤ state.stack.length) :
    Gives (machine.step state) (.error (machine.tooDeep state))
      { state with stack := frame.advance :: below } := by
  have stepped := standing.step_attempt_move stack slot
  simp only [perform, standing.push_full stack full symbol.name .optional (.advance frame),
    Outcome.raise] at stepped
  exact stepped

end Enter

theorem step_complete_move (standing : machine.Standing tokens goal state)
    (stack : state.stack = frame :: below) {production : Production}
    (current : machine.current? frame = some production)
    (done : production.length ≤ frame.element) :
    Gives (machine.step state) (complete state frame below).result
      (complete state frame below).after := by
  have same : frame.production.bind ((machine.table frame.symbol)[·]?) = some production := current
  have moves : machine.move (machine.table frame.symbol) tokens[state.cursor]? frame =
      .complete := by
    simp only [move, same, List.getElem?_eq_none done]
  exact standing.step_perform stack (predicted?_selected (production_ne_none current) _) moves

theorem step_finish (standing : machine.Standing tokens goal state) {production : Production}
    (stack : state.stack = [frame]) (current : machine.current? frame = some production)
    (done : production.length ≤ frame.element) :
    Gives (machine.step state) (.ok true) { popped state frame [] with
      result := some (.branch frame.symbol frame.start state.cursor frame.children) } := by
  have stepped := standing.step_complete_move stack current done
  simp only [complete, if_pos (standing.marker_mem stack)] at stepped
  exact stepped

theorem step_adopt (standing : machine.Standing tokens goal state) {parent : Frame}
    {production : Production} (stack : state.stack = frame :: parent :: below)
    (current : machine.current? frame = some production)
    (done : production.length ≤ frame.element) :
    Gives (machine.step state) (.ok true)
      (popped state frame (Machine.adopt state.cursor frame parent :: below)) := by
  have stepped := standing.step_complete_move stack current done
  simp only [complete, if_pos (standing.marker_mem stack)] at stepped
  exact stepped

end Step

section Backtrack

theorem backtrack_retry (standing : machine.Standing tokens goal state)
    (stack : state.stack = frame :: below) (unmoved : frame.start = state.cursor)
    (more : frame.nextProduction < (machine.table frame.symbol).length) :
    Gives (machine.backtrack state) (.ok true)
      (state.select frame below frame.nextProduction) := by
  have here : decide (frame.start < state.cursor) = false := by simp [unmoved]
  unfold backtrack unwind
  rw [stack]
  simp only [productionsOf_eq (standing.top_upright stack).known, here, true_and, if_pos more]
  exact ⟨rfl, rfl⟩

theorem backtrack_absent (standing : machine.Standing tokens goal state)
    (stack : state.stack = frame :: below) (unmoved : frame.start = state.cursor)
    (spent : (machine.table frame.symbol).length ≤ frame.nextProduction)
    (origin : frame.origin = .optional) :
    Gives (machine.backtrack state) (.ok true) (popped state frame below) := by
  have here : decide (frame.start < state.cursor) = false := by simp [unmoved]
  unfold backtrack unwind
  rw [stack]
  simp only [productionsOf_eq (standing.top_upright stack).known, here, true_and,
    if_neg (Nat.not_lt_of_le spent), if_pos (standing.marker_mem stack), origin, Origin.tentative,
    if_true]
  exact ⟨rfl, rfl⟩

theorem backtrack_unrepeated (standing : machine.Standing tokens goal state) {parent : Frame}
    (stack : state.stack = frame :: parent :: below) (unmoved : frame.start = state.cursor)
    (spent : (machine.table frame.symbol).length ≤ frame.nextProduction)
    (origin : frame.origin = .again) :
    Gives (machine.backtrack state) (.ok true)
      (popped state frame (parent.advance :: below)) := by
  have here : decide (frame.start < state.cursor) = false := by simp [unmoved]
  unfold backtrack unwind
  rw [stack]
  simp only [productionsOf_eq (standing.top_upright stack).known, here, true_and,
    if_neg (Nat.not_lt_of_le spent), if_pos (standing.marker_mem stack), origin, Origin.tentative,
    if_true]
  exact ⟨rfl, rfl⟩

/-- A frame that has consumed a token, or has nothing left and is needed, leaves the
decision to the frames below it. -/
theorem backtrack_below (standing : machine.Standing tokens goal state)
    (stack : state.stack = frame :: below)
    (hopeless : frame.start < state.cursor ∨
      (machine.table frame.symbol).length ≤ frame.nextProduction ∧
        frame.origin.tentative = false) :
    Gives (machine.backtrack state) (machine.backtrack (popped state frame below)).result
      (machine.backtrack (popped state frame below)).after := by
  have held := standing.marker_mem stack
  -- The loop below keeps the stack of the call in its state, and a backtrack of the
  -- frames below does not.
  have deeper := unwind_congr machine { state with markers := state.markers.erase frame.marker }
    below below
  have next : ¬(decide (frame.start < state.cursor) = false ∧
      frame.nextProduction < (machine.table frame.symbol).length) := by
    rintro ⟨here, more⟩
    rcases hopeless with committed | ⟨spent, _⟩
    · simp [committed] at here
    · omega
  have needed : ¬(frame.origin.tentative = true ∧ decide (frame.start < state.cursor) = false) := by
    rintro ⟨tentative, here⟩
    rcases hopeless with committed | ⟨_, required⟩
    · simp [committed] at here
    · simp [required] at tentative
  unfold backtrack
  rw [stack]
  show Gives (machine.unwind state (frame :: below)) (machine.unwind _ below).result
    (machine.unwind _ below).after
  unfold popped
  rw [deeper]
  conv => enter [1]; unfold unwind
  simp only [productionsOf_eq (standing.top_upright stack).known, if_neg next, if_pos held,
    if_neg needed]
  exact ⟨rfl, rfl⟩

/-- Once a frame on top has consumed a token, so have all below it, and the stack goes. -/
theorem backtrack_committed (standing : machine.Standing tokens goal state)
    (stack : state.stack = frame :: below) (committed : frame.start < state.cursor) :
    Gives (machine.backtrack state) (.ok false) { state with stack := [], markers := [] } := by
  -- Frames below start no later, so that the reason holds of each in turn.
  induction below generalizing state frame with
  | nil =>
    have under := standing.backtrack_below stack (Or.inl committed)
    have emptied := machine.backtrack_empty (show (popped state frame []).stack = [] from rfl)
    refine ⟨under.1.trans emptied.1, under.2.trans (emptied.2.trans ?_)⟩
    unfold popped
    rw [standing.markers_erase stack]
    rfl
  | cons parent rest ih =>
    have under := standing.backtrack_below stack (Or.inl committed)
    have order : parent.start ≤ frame.start := by
      cases standing.top_tower stack with
      | push _ _ _ _ order => exact order
    have emptied := ih (standing.pop stack) rfl (Nat.lt_of_le_of_lt order committed)
    exact ⟨under.1.trans emptied.1, under.2.trans emptied.2⟩

end Backtrack

section Turns

theorem decided_of_step {result : Except Fault Bool} {after : State}
    (stepped : Gives (machine.step state) result after)
    (decided : machine.Decided tokens state result after) :
    machine.Decided tokens state (machine.step state).result (machine.step state).after := by
  rw [stepped.1, stepped.2]
  exact decided

theorem step_required (standing : machine.Standing tokens goal state)
    (stack : state.stack = frame :: below) {symbol : Symbol}
    (slot : machine.element? frame = some (.required symbol)) :
    machine.Decided tokens state (machine.step state).result (machine.step state).after := by
  cases symbol with
  | terminal terminal =>
    rcases mismatch_or_accepted terminal tokens[state.cursor]? with
      mismatch | ⟨token, there, accepted⟩
    · exact decided_of_step (standing.step_mismatch stack slot mismatch)
        (.stuck stack (.terminal slot mismatch))
    · exact decided_of_step (standing.step_shift stack there (.inl slot) accepted)
        (.moved (.shift stack there (.inl slot) accepted) (.inl nofun))
  | nonTerminal symbol =>
    have enter {origin : Origin} (reason : frame.progressed = none ∧ origin = .expand ∨
        frame.progressed = some true ∧ origin = .again) (wanted : frame.progressed ≠ some false) :
        machine.Decided tokens state (machine.step state).result (machine.step state).after := by
      by_cases room : state.stack.length < machine.maxDepth
      · exact decided_of_step (standing.step_enter stack slot reason room)
          (.moved (.enter stack slot reason room) (.inl nofun))
      · have full := Nat.le_of_not_lt room
        exact decided_of_step (standing.step_enter_full stack slot wanted full)
          (.deep (.overflow stack slot wanted full))
    cases progressed : frame.progressed with
    | none => exact enter (.inl ⟨progressed, rfl⟩) (by rw [progressed]; nofun)
    | some value =>
      cases value with
      | false =>
        exact decided_of_step (standing.step_close stack slot progressed)
          (.moved (.close stack slot progressed) (.inl nofun))
      | true => exact enter (.inr ⟨progressed, rfl⟩) (by rw [progressed]; nofun)

theorem step_optional (standing : machine.Standing tokens goal state)
    (stack : state.stack = frame :: below) {symbol : Option Symbol}
    (slot : machine.element? frame = some (.optional symbol)) :
    machine.Decided tokens state (machine.step state).result (machine.step state).after := by
  have skip (absent : symbol = none ∨ ∃ terminal, symbol = some (.terminal terminal) ∧
      Mismatch terminal tokens[state.cursor]?) :=
    decided_of_step (standing.step_skip stack slot absent)
      (.moved (.skip stack slot absent) (.inl nofun))
  rcases symbol with _ | terminal | symbol
  · exact skip (.inl rfl)
  · rcases mismatch_or_accepted terminal tokens[state.cursor]? with
      mismatch | ⟨token, there, accepted⟩
    · exact skip (.inr ⟨terminal, rfl, mismatch⟩)
    · exact decided_of_step (standing.step_shift stack there (.inr slot) accepted)
        (.moved (.shift stack there (.inr slot) accepted) (.inl nofun))
  · by_cases room : state.stack.length < machine.maxDepth
    · exact decided_of_step (standing.step_attempt stack slot room)
        (.moved (.attempt stack slot room) (.inl nofun))
    · have full := Nat.le_of_not_lt room
      exact decided_of_step (standing.step_attempt_full stack slot full)
        (.deep (.overflowOptional stack slot full))

theorem step_selected (standing : machine.Standing tokens goal state)
    (stack : state.stack = frame :: below) (selected : frame.production ≠ none) :
    machine.Decided tokens state (machine.step state).result (machine.step state).after := by
  obtain ⟨production, current, _⟩ := (standing.top_upright stack).chosen selected
  cases found : production[frame.element]? with
  | none =>
    have done := List.getElem?_eq_none_iff.mp found
    cases below with
    | nil =>
      exact decided_of_step (standing.step_finish stack current done)
        (.moved (.finish stack current done) (.inr nofun))
    | cons parent rest =>
      exact decided_of_step (standing.step_adopt stack current done)
        (.moved (.adopt stack current done) (.inl nofun))
  | some element =>
    have slot : machine.element? frame = some element :=
      Option.bind_eq_some_iff.mpr ⟨production, current, found⟩
    cases element with
    | required symbol => exact standing.step_required stack slot
    | optional symbol => exact standing.step_optional stack slot

/-- Every step is decided where the cursor is, perhaps after a choice. -/
theorem step_decided (standing : machine.Standing tokens goal state)
    (stack : state.stack = frame :: below) :
    ∃ held, machine.Turns tokens state held ∧ held.cursor = state.cursor ∧
      machine.Decided tokens held (machine.step state).result (machine.step state).after := by
  by_cases selected : frame.production = none
  · cases predicted :
        machine.predicted? (machine.table frame.symbol) tokens[state.cursor]? frame with
    | none =>
      exact ⟨state, .refl, rfl, decided_of_step (standing.step_unselected stack selected predicted)
        (.stuck stack (.unselected selected predicted))⟩
    | some production =>
      -- One step selects the production and moves by it: two turns.
      obtain ⟨_, listed⟩ := predicted?_eq_some predicted
      obtain ⟨result, after⟩ := standing.step_predicted stack predicted listed
      have unmoved := (standing.top_poised stack).unmoved selected
      have decided := (standing.select stack listed).step_selected rfl nofun
      rw [← result, ← after] at decided
      exact ⟨_, .single (.select stack unmoved listed (.inl predicted)), rfl, decided⟩
  · exact ⟨state, .refl, rfl, standing.step_selected stack selected⟩

theorem step_turns (standing : machine.Standing tokens goal state)
    (stack : state.stack = frame :: below) :
    machine.Turns tokens state (machine.step state).after ∧ Sound (machine.step state).result := by
  obtain ⟨held, turns, _, decided⟩ := standing.step_decided stack
  exact ⟨turns.tail decided.turn, decided.sound⟩

/-- Every backtrack is made of turns. It finds something to try on a stack that is left, or
leaves nothing but what was recorded. -/
theorem backtrack_decided (standing : machine.Standing tokens goal state) :
    machine.Turns tokens state (machine.backtrack state).after ∧
      ((machine.backtrack state).result = .ok true ∧ (machine.backtrack state).after.stack ≠ [] ∨
        (machine.backtrack state).result = .ok false ∧
          (machine.backtrack state).after = { state with stack := [], markers := [] }) := by
  -- Frames above the first that can do something else go one by one.
  induction stack : state.stack generalizing state with
  | nil =>
    obtain ⟨result, after⟩ := machine.backtrack_empty stack
    have markers : state.markers = [] := by rw [standing.markers, stack, List.map_nil]
    rw [result, after]
    exact ⟨.refl, .inr ⟨rfl, by rw [← stack, ← markers]⟩⟩
  | cons frame below ih =>
    rcases Nat.lt_or_eq_of_le (standing.top_poised stack).behind with committed | unmoved
    · obtain ⟨result, after⟩ := standing.backtrack_committed stack committed
      rw [result, after]
      exact ⟨.single (.collapse stack committed), .inr ⟨rfl, rfl⟩⟩
    · by_cases more : frame.nextProduction < (machine.table frame.symbol).length
      · obtain ⟨result, after⟩ := standing.backtrack_retry stack unmoved more
        rw [result, after]
        exact ⟨.single (.select stack unmoved more (.inr rfl)), .inl ⟨rfl, nofun⟩⟩
      · have spent := Nat.le_of_not_lt more
        have under (needed : frame.origin.tentative = false) :
            machine.Turns tokens state (machine.backtrack state).after ∧
              ((machine.backtrack state).result = .ok true ∧
                  (machine.backtrack state).after.stack ≠ [] ∨
                (machine.backtrack state).result = .ok false ∧
                  (machine.backtrack state).after = { state with stack := [], markers := [] }) := by
          obtain ⟨result, after⟩ := standing.backtrack_below stack (.inr ⟨spent, needed⟩)
          rw [result, after]
          obtain ⟨turns, answer⟩ := ih (standing.pop stack) rfl
          exact ⟨.head (.drop stack unmoved spent needed) turns, answer⟩
        -- A goal is neither optional nor a repetition, so that these have a parent.
        have called (needless : frame.origin ≠ .goal) : below ≠ [] := by
          rintro rfl
          cases standing.top_tower stack with
          | base _ _ origin => exact needless origin
        cases origin : frame.origin with
        | goal | expand => exact under (by rw [origin]; rfl)
        | optional =>
          obtain ⟨result, after⟩ := standing.backtrack_absent stack unmoved spent origin
          rw [result, after]
          exact ⟨.single (.omitted stack unmoved spent origin),
            .inl ⟨rfl, called (by rw [origin]; nofun)⟩⟩
        | again =>
          obtain ⟨parent, rest, rfl⟩ :=
            List.exists_cons_of_ne_nil (called (by rw [origin]; nofun))
          obtain ⟨result, after⟩ := standing.backtrack_unrepeated stack unmoved spent origin
          rw [result, after]
          exact ⟨.single (.unrepeated stack unmoved spent origin), .inl ⟨rfl, nofun⟩⟩

theorem backtrack_turns (standing : machine.Standing tokens goal state) :
    machine.Turns tokens state (machine.backtrack state).after ∧
      ((machine.backtrack state).result = .ok true ∨
        (machine.backtrack state).result = .ok false ∧
          (machine.backtrack state).after.stack = []) := by
  obtain ⟨turns, ⟨found, _⟩ | ⟨lost, after⟩⟩ := standing.backtrack_decided
  · exact ⟨turns, .inl found⟩
  · exact ⟨turns, .inr ⟨lost, congrArg State.stack after⟩⟩

theorem turns {after : State} (standing : machine.Standing tokens goal state)
    (turns : machine.Turns tokens state after) : machine.Standing tokens goal after := by
  induction turns with
  | refl => exact standing
  | tail _ turn ih => exact ih.turn turn

end Turns

end Standing

end Machine

end Descent
