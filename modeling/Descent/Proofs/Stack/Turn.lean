import Descent.Machine.Progress
import Descent.Proofs.Stack.Tower

/-! What one call of the machine can do to a state, cut into turns.

A step is a turn or two, a backtrack any number of them. `Standing` holds between
turns in every state that a goal leads to, and each turn keeps it.
-/

set_option autoImplicit false

namespace Descent

namespace Machine

def popped (state : State) (frame : Frame) (below : List Frame) : State :=
  { state with stack := below, markers := state.markers.erase frame.marker }

def entered (state : State) (symbol : String) (origin : Origin) (below : List Frame) : State :=
  { state with
    stack := fresh symbol origin state.cursor below :: below
    markers := (fresh symbol origin state.cursor below).marker :: state.markers }

/-- How a frame on top lies to the cursor. -/
structure Poised (cursor : Nat) (frame : Frame) : Prop where
  behind : frame.start ≤ cursor
  unmoved : frame.production = none → frame.start = cursor
  moved : frame.progressed = some true → frame.start < cursor

/-- What holds of a state whenever no call is under way. -/
structure Standing (machine : Machine) (tokens : List Token) (goal : String) (state : State) :
    Prop where
  installed : state.tokens = some tokens
  inside : state.cursor ≤ tokens.length
  markers : state.markers = state.stack.map Frame.marker
  tower : machine.Tower goal state.stack
  depth : state.stack.length ≤ machine.maxDepth
  top : ∀ frame, state.stack.head? = some frame → Poised state.cursor frame

theorem fail_eq (state : State) (symbols : List String) (expected : List Expectation) :
    ∃ failure, state.fail symbols expected = { state with failure := failure } := by
  unfold State.fail
  dsimp only
  split
  · exact ⟨_, rfl⟩
  · split
    · exact ⟨_, rfl⟩
    · split
      · exact ⟨_, rfl⟩
      · exact ⟨state.failure, rfl⟩

def Mismatch (terminal : Terminal) (token : Option Token) : Prop :=
  ∀ there, token = some there → terminal.accepts there = false

theorem mismatch_or_accepted (terminal : Terminal) (token : Option Token) :
    Mismatch terminal token ∨ ∃ there, token = some there ∧ terminal.accepts there = true := by
  by_cases accepted : ∃ there, token = some there ∧ terminal.accepts there = true
  · exact .inr accepted
  · left
    intro there same
    exact Bool.eq_false_iff.mpr fun matched => accepted ⟨there, same, matched⟩

/-- Why a frame cannot go on, and what would have let it. -/
inductive Stuck (machine : Machine) (token : Option Token) (frame : Frame) :
    List Expectation → Prop where
  | unselected (unselected : frame.production = none)
      (unpredicted : machine.predicted? (machine.table frame.symbol) token frame = none) :
      Stuck machine token frame (machine.expectations frame.symbol)
  | terminal {terminal : Terminal}
      (slot : machine.element? frame = some (.required (.terminal terminal)))
      (mismatch : Mismatch terminal token) :
      Stuck machine token frame [.terminal terminal.criterion]

/-- Turns that a step is made of come first, then those of a backtrack, then those of
a step that fails or overflows, and last the verdict of a run on tokens left over. -/
inductive Turn (machine : Machine) (tokens : List Token) (state : State) : State → Prop where
  | select {frame : Frame} {below : List Frame} {production : Nat}
      (stack : state.stack = frame :: below) (unmoved : frame.start = state.cursor)
      (listed : production < (machine.table frame.symbol).length)
      (chosen : machine.predicted? (machine.table frame.symbol) tokens[state.cursor]? frame =
          some production ∨ production = frame.nextProduction) :
      Turn machine tokens state (state.select frame below production)
  | shift {frame : Frame} {below : List Frame} {token : Token} {terminal : Terminal}
      (stack : state.stack = frame :: below) (there : tokens[state.cursor]? = some token)
      (slot : machine.element? frame = some (.required (.terminal terminal)) ∨
        machine.element? frame = some (.optional (some (.terminal terminal))))
      (accepted : terminal.accepts token = true) :
      Turn machine tokens state (Machine.shift state token frame below)
  | close {frame : Frame} {below : List Frame} {symbol : NonTerminal}
      (stack : state.stack = frame :: below)
      (slot : machine.element? frame = some (.required (.nonTerminal symbol)))
      (idle : frame.progressed = some false) :
      Turn machine tokens state { state with stack := frame.advance :: below }
  | skip {frame : Frame} {below : List Frame} {symbol : Option Symbol}
      (stack : state.stack = frame :: below)
      (slot : machine.element? frame = some (.optional symbol))
      (absent : symbol = none ∨ ∃ terminal, symbol = some (.terminal terminal) ∧
        Mismatch terminal tokens[state.cursor]?) :
      Turn machine tokens state { state with stack := frame.advance :: below }
  | enter {frame : Frame} {below : List Frame} {symbol : NonTerminal} {origin : Origin}
      (stack : state.stack = frame :: below)
      (slot : machine.element? frame = some (.required (.nonTerminal symbol)))
      (reason : frame.progressed = none ∧ origin = .expand ∨
        frame.progressed = some true ∧ origin = .again)
      (room : state.stack.length < machine.maxDepth) :
      Turn machine tokens state
        (entered state symbol.name origin ({ frame with progressed := none } :: below))
  | attempt {frame : Frame} {below : List Frame} {symbol : NonTerminal}
      (stack : state.stack = frame :: below)
      (slot : machine.element? frame = some (.optional (some (.nonTerminal symbol))))
      (room : state.stack.length < machine.maxDepth) :
      Turn machine tokens state (entered state symbol.name .optional (frame.advance :: below))
  | finish {frame : Frame} {production : Production} (stack : state.stack = [frame])
      (current : machine.current? frame = some production)
      (done : production.length ≤ frame.element) :
      Turn machine tokens state { popped state frame [] with
        result := some (.branch frame.symbol frame.start state.cursor frame.children) }
  | adopt {frame parent : Frame} {below : List Frame} {production : Production}
      (stack : state.stack = frame :: parent :: below)
      (current : machine.current? frame = some production)
      (done : production.length ≤ frame.element) :
      Turn machine tokens state
        (popped state frame (Machine.adopt state.cursor frame parent :: below))
  | drop {frame : Frame} {below : List Frame} (stack : state.stack = frame :: below)
      (unmoved : frame.start = state.cursor)
      (spent : (machine.table frame.symbol).length ≤ frame.nextProduction)
      (needed : frame.origin.tentative = false) :
      Turn machine tokens state (popped state frame below)
  | omitted {frame : Frame} {below : List Frame} (stack : state.stack = frame :: below)
      (unmoved : frame.start = state.cursor)
      (spent : (machine.table frame.symbol).length ≤ frame.nextProduction)
      (origin : frame.origin = .optional) :
      Turn machine tokens state (popped state frame below)
  | unrepeated {frame parent : Frame} {below : List Frame}
      (stack : state.stack = frame :: parent :: below) (unmoved : frame.start = state.cursor)
      (spent : (machine.table frame.symbol).length ≤ frame.nextProduction)
      (origin : frame.origin = .again) :
      Turn machine tokens state (popped state frame (parent.advance :: below))
  | collapse {frame : Frame} {below : List Frame} (stack : state.stack = frame :: below)
      (committed : frame.start < state.cursor) :
      Turn machine tokens state { state with stack := [], markers := [] }
  | fail {frame : Frame} {below : List Frame} {expected : List Expectation}
      (stack : state.stack = frame :: below)
      (stuck : machine.Stuck tokens[state.cursor]? frame expected) :
      Turn machine tokens state (state.fail state.symbols expected)
  | overflow {frame : Frame} {below : List Frame} {symbol : NonTerminal}
      (stack : state.stack = frame :: below)
      (slot : machine.element? frame = some (.required (.nonTerminal symbol)))
      (wanted : frame.progressed ≠ some false)
      (full : machine.maxDepth ≤ state.stack.length) :
      Turn machine tokens state { state with stack := { frame with progressed := none } :: below }
  | overflowOptional {frame : Frame} {below : List Frame} {symbol : NonTerminal}
      (stack : state.stack = frame :: below)
      (slot : machine.element? frame = some (.optional (some (.nonTerminal symbol))))
      (full : machine.maxDepth ≤ state.stack.length) :
      Turn machine tokens state { state with stack := frame.advance :: below }
  | leftover {tree : Tree} (stack : state.stack = []) (result : state.result = some tree)
      (left : state.cursor < tokens.length) :
      Turn machine tokens state (state.fail [tree.name] [.endOfInput])

namespace Upright

variable {machine : Machine} {frame : Frame}

theorem advance {element : Element} (upright : machine.Upright frame)
    (slot : machine.element? frame = some element) : machine.Upright frame.advance := by
  obtain ⟨production, current, found⟩ := element?_eq_some slot
  refine ⟨upright.known, ?_, ?_, ?_⟩
  · exact fun _ => ⟨production, current, (List.getElem?_eq_some_iff.mp found).1⟩
  · exact fun unselected => absurd unselected (production_ne_none current)
  · exact fun judged => absurd rfl judged

theorem unjudged (upright : machine.Upright frame) :
    machine.Upright { frame with progressed := none } := by
  refine ⟨upright.known, upright.chosen, ?_, fun judged => absurd rfl judged⟩
  intro unselected
  obtain ⟨element, _, children⟩ := upright.blank unselected
  exact ⟨element, rfl, children⟩

theorem select {production : Nat} (upright : machine.Upright frame)
    (listed : production < (machine.table frame.symbol).length) :
    machine.Upright (frame.select production) := by
  refine ⟨upright.known, ?_, ?_, fun judged => absurd rfl judged⟩
  · exact fun _ => ⟨_, List.getElem?_eq_getElem listed, Nat.zero_le _⟩
  · intro unselected
    cases unselected

theorem shift {element : Element} (upright : machine.Upright frame)
    (slot : machine.element? frame = some element) (children : List Tree) :
    machine.Upright { frame.advance with children := children } := by
  have selected := selected_of_element slot
  have advanced := upright.advance slot
  exact ⟨advanced.known, advanced.chosen, fun unselected => absurd unselected selected,
    advanced.judged⟩

theorem fresh {symbol : String} {origin : Origin} {cursor : Nat} {below : List Frame}
    (known : machine.Knows symbol) : machine.Upright (fresh symbol origin cursor below) :=
  ⟨known, fun selected => absurd rfl selected, fun _ => ⟨rfl, rfl, rfl⟩,
    fun judged => absurd rfl judged⟩

theorem adopt {cursor : Nat} {child : Frame} (upright : machine.Upright frame)
    (calls : machine.Calls frame child) (waiting : frame.progressed = none) :
    machine.Upright (adopt cursor child frame) := by
  refine ⟨upright.known, upright.chosen, fun unselected => absurd unselected calls.selected, ?_⟩
  intro judged
  cases calls with
  | expand slot | again slot => exact ⟨_, slot⟩
  | optional _ _ _ _ origin =>
    -- The child of an optional slot leaves the verdict as it was, which was none.
    simp only [Machine.adopt, origin, if_true] at judged
    exact absurd waiting judged

end Upright

namespace Standing

variable {machine : Machine} {tokens : List Token} {goal : String} {state : State}

section Top

variable {frame : Frame} {below : List Frame}

theorem top_tower (standing : machine.Standing tokens goal state)
    (stack : state.stack = frame :: below) : machine.Tower goal (frame :: below) :=
  stack ▸ standing.tower

theorem top_upright (standing : machine.Standing tokens goal state)
    (stack : state.stack = frame :: below) : machine.Upright frame :=
  (standing.top_tower stack).top_upright

theorem top_poised (standing : machine.Standing tokens goal state)
    (stack : state.stack = frame :: below) : Poised state.cursor frame :=
  standing.top frame (by rw [stack]; rfl)

theorem marker_mem (standing : machine.Standing tokens goal state)
    (stack : state.stack = frame :: below) : frame.marker ∈ state.markers := by
  rw [standing.markers, stack]
  exact List.mem_cons_self

theorem markers_erase (standing : machine.Standing tokens goal state)
    (stack : state.stack = frame :: below) :
    state.markers.erase frame.marker = below.map Frame.marker := by
  rw [standing.markers, stack, List.map_cons, List.erase_cons_head]

theorem marker_fresh (standing : machine.Standing tokens goal state) (other : Frame)
    (stack : state.stack = frame :: below) (symbol : String) :
    ({ state with stack := other :: below } : State).marker symbol ∉ state.markers := by
  rw [standing.markers]
  intro member
  -- The new marker would have the whole stack below it, and none in the stack has.
  obtain ⟨held, inStack, same⟩ := List.mem_map.mp member
  have short := standing.tower.keyed.context_length_lt held inStack
  rw [same] at short
  simp [State.marker, stack] at short

theorem replace (standing : machine.Standing tokens goal state) {other : Frame}
    (stack : state.stack = frame :: below) (alike : Alike frame other)
    (upright : machine.Upright other) (poised : Poised state.cursor other) :
    machine.Standing tokens goal { state with stack := other :: below } := by
  refine ⟨standing.installed, standing.inside, ?_,
    (standing.top_tower stack).replace alike upright, ?_, ?_⟩
  · show state.markers = other.marker :: below.map Frame.marker
    rw [standing.markers, stack, List.map_cons, alike.marker]
  · show (other :: below).length ≤ machine.maxDepth
    have := standing.depth
    rw [stack] at this
    exact this
  · intro top head
    cases head
    exact poised

theorem replace_unjudged (standing : machine.Standing tokens goal state) {other : Frame}
    (stack : state.stack = frame :: below) (alike : Alike frame other)
    (upright : machine.Upright other) (selected : other.production ≠ none)
    (unjudged : other.progressed = none) :
    machine.Standing tokens goal { state with stack := other :: below } := by
  refine standing.replace stack alike upright ⟨?_, ?_, ?_⟩
  · rw [alike.start]
    exact (standing.top_poised stack).behind
  · exact fun unselected => absurd unselected selected
  · rw [unjudged]
    exact nofun

theorem advance (standing : machine.Standing tokens goal state)
    (stack : state.stack = frame :: below) {element : Element}
    (slot : machine.element? frame = some element) :
    machine.Standing tokens goal { state with stack := frame.advance :: below } := by
  have selected := selected_of_element slot
  exact standing.replace_unjudged stack (.advance frame)
    ((standing.top_upright stack).advance slot) selected rfl

theorem unjudged (standing : machine.Standing tokens goal state)
    (stack : state.stack = frame :: below) {element : Element}
    (slot : machine.element? frame = some element) :
    machine.Standing tokens goal
      { state with stack := { frame with progressed := none } :: below } := by
  have selected := selected_of_element slot
  exact standing.replace_unjudged stack ⟨rfl, rfl, rfl, rfl⟩
    (standing.top_upright stack).unjudged selected rfl

theorem enter (standing : machine.Standing tokens goal state) {symbol : String} {origin : Origin}
    (stack : state.stack = frame :: below) (known : machine.Knows symbol)
    (calls : machine.Calls frame (fresh symbol origin state.cursor (frame :: below)))
    (waiting : frame.progressed = none) (room : state.stack.length < machine.maxDepth) :
    machine.Standing tokens goal (entered state symbol origin (frame :: below)) := by
  refine ⟨standing.installed, standing.inside, ?_, ?_, ?_, ?_⟩
  · show _ :: state.markers = _ :: (frame :: below).map Frame.marker
    rw [standing.markers, stack]
  · exact .push (standing.top_tower stack) (.fresh known) calls waiting
      (standing.top_poised stack).behind rfl
  · rw [stack] at room
    exact room
  · intro top head
    cases head
    exact ⟨Nat.le_refl _, fun _ => rfl, nofun⟩

theorem pop (standing : machine.Standing tokens goal state)
    (stack : state.stack = frame :: below) :
    machine.Standing tokens goal (popped state frame below) := by
  have tower := standing.top_tower stack
  refine ⟨standing.installed, standing.inside, standing.markers_erase stack, tower.pop, ?_, ?_⟩
  · have depth := standing.depth
    rw [stack] at depth
    exact Nat.le_of_succ_le depth
  · intro parent head
    have behind := (standing.top_poised stack).behind
    cases tower with
    | base => cases head
    | push _ _ calls waiting order =>
      cases head
      refine ⟨Nat.le_trans order behind, fun unselected => absurd unselected calls.selected, ?_⟩
      rw [waiting]
      exact nofun

end Top

/-- Only the stack, the markers, the cursor and the tokens matter. -/
theorem congr (standing : machine.Standing tokens goal state) {other : State}
    (installed : other.tokens = state.tokens) (cursor : other.cursor = state.cursor)
    (stack : other.stack = state.stack) (markers : other.markers = state.markers) :
    machine.Standing tokens goal other := by
  refine ⟨installed.trans standing.installed, cursor ▸ standing.inside, ?_, stack ▸ standing.tower,
    stack ▸ standing.depth, ?_⟩
  · rw [markers, stack]
    exact standing.markers
  · rw [stack, cursor]
    exact standing.top

theorem adopt (standing : machine.Standing tokens goal state) {frame parent : Frame}
    {below : List Frame} (stack : state.stack = frame :: parent :: below) :
    machine.Standing tokens goal
      (popped state frame (Machine.adopt state.cursor frame parent :: below)) := by
  have below_standing := standing.pop stack
  have behind := (standing.top_poised stack).behind
  cases standing.top_tower stack with
  | push _ _ calls waiting order =>
    have upright : machine.Upright (Machine.adopt state.cursor frame parent) :=
      (below_standing.top_upright rfl).adopt calls waiting
    refine below_standing.replace rfl (.adopt _ _ _) upright ⟨?_, ?_, ?_⟩
    · exact Nat.le_trans order behind
    · exact fun unselected => absurd unselected calls.selected
    · intro progressed
      -- A good verdict is given only to a child that started before the cursor, and no
      -- child starts before its parent.
      by_cases optional : frame.origin = .optional
      · simp only [Machine.adopt, optional, if_true, waiting] at progressed
        cases progressed
      · simp only [Machine.adopt, optional, if_false, Option.some.injEq,
          decide_eq_true_eq] at progressed
        exact Nat.lt_of_le_of_lt order progressed

theorem shift (standing : machine.Standing tokens goal state) {frame : Frame}
    {below : List Frame} {token : Token} {element : Element}
    (stack : state.stack = frame :: below) (slot : machine.element? frame = some element)
    (there : tokens[state.cursor]? = some token) :
    machine.Standing tokens goal (Machine.shift state token frame below) := by
  have selected := selected_of_element slot
  have upright := (standing.top_upright stack).shift slot
    (frame.children ++ [.leaf token.kind token.lexeme state.cursor (state.cursor + 1)])
  have alike : Alike frame { frame.advance with children := frame.children ++
      [.leaf token.kind token.lexeme state.cursor (state.cursor + 1)] } := ⟨rfl, rfl, rfl, rfl⟩
  have moved := standing.replace_unjudged stack alike upright selected rfl
  refine ⟨moved.installed, (List.getElem?_eq_some_iff.mp there).1, moved.markers, moved.tower,
    moved.depth, ?_⟩
  intro top head
  cases head
  exact ⟨Nat.le_succ_of_le (standing.top_poised stack).behind,
    fun unselected => absurd unselected selected, nofun⟩

theorem select (standing : machine.Standing tokens goal state) {frame : Frame}
    {below : List Frame} {production : Nat} (stack : state.stack = frame :: below)
    (listed : production < (machine.table frame.symbol).length) :
    machine.Standing tokens goal (state.select frame below production) := by
  have moved := standing.replace_unjudged stack (.select frame production)
    ((standing.top_upright stack).select listed) nofun rfl
  exact moved.congr rfl rfl rfl rfl

theorem fail (standing : machine.Standing tokens goal state) (symbols : List String)
    (expected : List Expectation) :
    machine.Standing tokens goal (state.fail symbols expected) := by
  obtain ⟨failure, same⟩ := fail_eq state symbols expected
  rw [same]
  exact standing.congr rfl rfl rfl rfl

/-- What holds between turns goes on to hold. -/
theorem turn (standing : machine.Standing tokens goal state) {after : State}
    (turn : machine.Turn tokens state after) : machine.Standing tokens goal after := by
  -- Turns differ by what they do to the frame on top: it goes on, it is covered by
  -- another, or it goes away.
  cases turn with
  | select stack _ listed => exact standing.select stack listed
  | shift stack there slot =>
    rcases slot with slot | slot
    · exact standing.shift stack slot there
    · exact standing.shift stack slot there
  | close stack slot | skip stack slot | overflowOptional stack slot =>
    exact standing.advance stack slot
  | overflow stack slot => exact standing.unjudged stack slot
  | @enter frame below symbol origin stack slot reason room =>
    have known := knows_of_element slot rfl
    have waiting := standing.unjudged stack slot
    refine waiting.enter rfl known ?_ rfl (by rw [stack] at room; exact room)
    rcases reason with ⟨_, rfl⟩ | ⟨moved, rfl⟩
    · exact .expand slot rfl rfl
    · exact .again slot rfl rfl ((standing.top_poised stack).moved moved)
  | @attempt frame below symbol stack slot room =>
    have known := knows_of_element slot rfl
    obtain ⟨production, current, found⟩ := element?_eq_some slot
    exact (standing.advance stack slot).enter rfl known (.optional current found rfl rfl rfl) rfl
      (by rw [stack] at room; exact room)
  | finish stack => exact (standing.pop stack).congr rfl rfl rfl rfl
  | adopt stack => exact standing.adopt stack
  | drop stack | omitted stack => exact standing.pop stack
  | @unrepeated frame parent below stack _ _ origin =>
    -- The parent of a repetition stands at its slot still, and passes it now.
    have calls : machine.Calls parent frame := by
      cases standing.top_tower stack with
      | push _ _ calls => exact calls
    obtain ⟨_, _, slot⟩ := calls.required (by rw [origin]; nofun)
    exact (standing.pop stack).advance rfl slot
  | collapse =>
    exact ⟨standing.installed, standing.inside, rfl, .empty, Nat.zero_le _, nofun⟩
  | fail | leftover => exact standing.fail _ _

end Standing

end Machine

end Descent
