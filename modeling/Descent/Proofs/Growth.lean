import Mathlib.Data.List.Chain
import Descent.Proofs.Language

/-! Trees grow as derivations.

The children of a frame are groups for the elements that it has passed, and after them
what its current slot has so far. A frame that finishes its production has all the
groups, and its tree is a derivation.
-/

set_option autoImplicit false

namespace Descent

/-- What a repeating slot has once an expansion of it consumed tokens. -/
def Repeated (symbol : String) (group : List Tree) : Prop :=
  group ≠ [] ∧ ∀ tree ∈ group, Node.IsBranch symbol tree ∧ tree.start < tree.stop

theorem Repeated.suits {symbol : NonTerminal} {group : List Tree}
    (repeated : Repeated symbol.name group) (tokens : List Token) :
    Suits tokens (.required (.nonTerminal symbol)) group :=
  ⟨repeated.1, fun tree member => (repeated.2 tree member).1,
    fun _ tree member => (repeated.2 tree member).2⟩

namespace Machine

/-- The children of a frame, those of its current slot apart. -/
def Grown (machine : Machine) (tokens : List Token) (frame : Frame) (passed : Nat)
    (current : List Tree) : Prop :=
  ∃ production groups, machine.current? frame = some production ∧
    List.Forall₂ (Suits tokens) (production.take passed) groups ∧
    frame.children = groups.flatten ++ current

/-- What the slot of a frame on top has. After an overflow a slot that was to repeat
keeps what it has, and cannot be entered. -/
inductive Ready (machine : Machine) (tokens : List Token) (depth : Nat) (frame : Frame) :
    Prop where
  | blank (unselected : frame.production = none)
  | free (waiting : frame.progressed = none)
      (grown : machine.Grown tokens frame frame.element [])
  | full {symbol : NonTerminal} {current : List Tree} (waiting : frame.progressed = none)
      (slot : machine.element? frame = some (.required (.nonTerminal symbol)))
      (grown : machine.Grown tokens frame frame.element current)
      (repeated : Repeated symbol.name current) (full : machine.maxDepth ≤ depth)
  | repeating {symbol : NonTerminal} {current : List Tree}
      (progressed : frame.progressed = some true)
      (slot : machine.element? frame = some (.required (.nonTerminal symbol)))
      (grown : machine.Grown tokens frame frame.element current)
      (repeated : Repeated symbol.name current)
  | settled {symbol : NonTerminal} {current : List Tree}
      (progressed : frame.progressed = some false)
      (slot : machine.element? frame = some (.required (.nonTerminal symbol)))
      (grown : machine.Grown tokens frame frame.element current)
      (suits : Suits tokens (.required (.nonTerminal symbol)) current)

/-- What the slot of a frame has while a child is under expansion for it. -/
inductive Awaits (machine : Machine) (tokens : List Token) (child frame : Frame) : Prop where
  | expand (origin : child.origin = .expand)
      (grown : machine.Grown tokens frame frame.element [])
  | again {current : List Tree} (origin : child.origin = .again)
      (grown : machine.Grown tokens frame frame.element current)
      (repeated : Repeated child.symbol current)
  | optional {passed : Nat} (origin : child.origin = .optional)
      (passes : frame.element = passed + 1) (grown : machine.Grown tokens frame passed [])

structure Growing (machine : Machine) (tokens : List Token) (goal : String) (state : State) :
    Prop where
  top : ∀ frame, state.stack.head? = some frame →
    machine.Ready tokens state.stack.length frame
  waiting : state.stack.IsChain (machine.Awaits tokens)
  derived : ∀ frame ∈ state.stack, ∀ child ∈ frame.children,
    Derivation machine.grammar tokens child
  result : ∀ tree, state.result = some tree →
    Node.IsBranch goal tree ∧ Derivation machine.grammar tokens tree

section Grown

variable {machine : Machine} {tokens : List Token} {frame : Frame} {passed : Nat}
  {current : List Tree}

theorem Grown.close {production : Production} {element : Element}
    (grown : machine.Grown tokens frame passed current)
    (selected : machine.current? frame = some production)
    (found : production[passed]? = some element) (suits : Suits tokens element current) :
    machine.Grown tokens frame (passed + 1) [] := by
  obtain ⟨other, groups, same, before, children⟩ := grown
  obtain rfl : other = production := Option.some.inj (same.symm.trans selected)
  refine ⟨other, groups ++ [current], selected, ?_, ?_⟩
  · rw [List.take_add_one, found]
    exact List.rel_append before (.cons suits .nil)
  · rw [children, List.flatten_append, List.flatten_singleton, List.append_nil]

theorem Grown.pass {element : Element}
    (grown : machine.Grown tokens frame frame.element current)
    (slot : machine.element? frame = some element) (suits : Suits tokens element current) :
    machine.Grown tokens frame.advance frame.advance.element [] := by
  obtain ⟨production, selected, found⟩ := element?_eq_some slot
  exact grown.close selected found suits

theorem Grown.extend (grown : machine.Grown tokens frame passed current) (other : Frame)
    (tree : Tree) (symbol : other.symbol = frame.symbol)
    (production : other.production = frame.production)
    (children : other.children = frame.children ++ [tree]) :
    machine.Grown tokens other passed (current ++ [tree]) := by
  obtain ⟨elements, groups, selected, before, same⟩ := grown
  refine ⟨elements, groups, ?_, before, ?_⟩
  · unfold current? at selected ⊢
    rw [symbol, production]
    exact selected
  · rw [children, same, List.append_assoc]

theorem grown_select {production : Nat} (upright : machine.Upright frame)
    (listed : production < (machine.table frame.symbol).length) :
    machine.Grown tokens (frame.select production) 0 [] := by
  obtain ⟨elements, selected, _⟩ := (upright.select listed).chosen nofun
  exact ⟨elements, [], selected, by rw [List.take_zero]; exact .nil, rfl⟩

theorem Ready.free_of_slot {depth : Nat} (ready : machine.Ready tokens depth frame)
    {element : Element} (slot : machine.element? frame = some element)
    (other : ∀ symbol, element ≠ .required (.nonTerminal symbol)) :
    machine.Grown tokens frame frame.element [] := by
  have apart {symbol : NonTerminal}
      (same : machine.element? frame = some (.required (.nonTerminal symbol))) : False :=
    other symbol (Option.some.inj (slot.symm.trans same))
  cases ready with
  | blank unselected => exact absurd unselected (selected_of_element slot)
  | free _ grown => exact grown
  | full _ same => exact (apart same).elim
  | repeating _ same => exact (apart same).elim
  | settled _ same => exact (apart same).elim

theorem Ready.derivation {depth cursor : Nat} (ready : machine.Ready tokens depth frame)
    {production : Production} (selected : machine.current? frame = some production)
    (done : production.length ≤ frame.element)
    (derived : ∀ child ∈ frame.children, Derivation machine.grammar tokens child) :
    Derivation machine.grammar tokens
      (.branch frame.symbol frame.start cursor frame.children) := by
  have past (element : Element) : machine.element? frame ≠ some element := by
    intro slot
    obtain ⟨other, same, found⟩ := element?_eq_some slot
    obtain rfl : other = production := Option.some.inj (same.symm.trans selected)
    rw [List.getElem?_eq_none done] at found
    cases found
  cases ready with
  | blank unselected => exact absurd unselected (production_ne_none selected)
  | full _ slot => exact absurd slot (past _)
  | repeating _ slot => exact absurd slot (past _)
  | settled _ slot => exact absurd slot (past _)
  | free _ grown =>
    obtain ⟨other, groups, same, suits, children⟩ := grown
    obtain rfl : other = production := Option.some.inj (same.symm.trans selected)
    rw [List.take_of_length_le done] at suits
    rw [List.append_nil] at children
    rw [children] at derived ⊢
    exact .branch (lists_of_mem_table (current?_mem selected)) suits derived

theorem Awaits.transport {child other : Frame} (awaits : machine.Awaits tokens child frame)
    (alike : Alike child other) : machine.Awaits tokens other frame := by
  cases awaits with
  | expand origin grown => exact .expand (alike.origin.trans origin) grown
  | again origin grown repeated =>
    exact .again (alike.origin.trans origin) grown (alike.symbol ▸ repeated)
  | optional origin passes grown => exact .optional (alike.origin.trans origin) passes grown

theorem Awaits.adopt {child : Frame} {depth cursor : Nat}
    (awaits : machine.Awaits tokens child frame) (calls : machine.Calls frame child)
    (waiting : frame.progressed = none) :
    machine.Ready tokens depth (adopt cursor child frame) := by
  have joins (grows : decide (child.start < cursor) = true ∨ child.origin ≠ .again) :
      (Machine.adopt cursor child frame).children =
        frame.children ++ [.branch child.symbol child.start cursor child.children] :=
    if_pos grows
  have verdict (needed : child.origin ≠ .optional) :
      (Machine.adopt cursor child frame).progressed = some (decide (child.start < cursor)) :=
    if_neg needed
  -- What becomes of the slot depends on why the child was there, and on whether the child
  -- consumed anything.
  cases awaits with
  | expand origin grown =>
    have extended := grown.extend (Machine.adopt cursor child frame) _ rfl rfl
      (joins (.inr (by rw [origin]; nofun)))
    obtain ⟨symbol, name, slot⟩ := calls.required (by rw [origin]; nofun)
    have judged := verdict (by rw [origin]; nofun)
    have branch : Node.IsBranch symbol.name
        (.branch child.symbol child.start cursor child.children) := ⟨_, _, _, by rw [name]⟩
    by_cases moved : child.start < cursor
    · rw [decide_eq_true moved] at judged
      refine .repeating judged slot extended ⟨nofun, fun tree member => ?_⟩
      rw [List.nil_append, List.mem_singleton] at member
      exact member ▸ ⟨branch, moved⟩
    · rw [decide_eq_false moved] at judged
      refine .settled judged slot extended ⟨nofun, fun tree member => ?_, fun several => ?_⟩
      · rw [List.nil_append, List.mem_singleton] at member
        exact member ▸ branch
      · exact absurd several (by simp)
  | @again current origin grown repeated =>
    obtain ⟨symbol, name, slot⟩ := calls.required (by rw [origin]; nofun)
    have judged := verdict (by rw [origin]; nofun)
    rw [← name] at repeated
    by_cases moved : child.start < cursor
    · rw [decide_eq_true moved] at judged
      have extended := grown.extend (Machine.adopt cursor child frame) _ rfl rfl
        (joins (.inl (decide_eq_true moved)))
      refine .repeating judged slot extended ⟨by simp, fun tree member => ?_⟩
      rcases List.mem_append.mp member with old | new
      · exact repeated.2 tree old
      · rw [List.mem_singleton] at new
        exact new ▸ ⟨⟨_, _, _, by rw [name]⟩, moved⟩
    · -- The tree of a repetition that consumed nothing is left out.
      rw [decide_eq_false moved] at judged
      have same : (Machine.adopt cursor child frame).children = frame.children := by
        apply if_neg
        rw [origin]
        simpa using moved
      obtain ⟨production, groups, selected, before, children⟩ := grown
      exact .settled judged slot ⟨production, groups, selected, before, same.trans children⟩
        (repeated.suits tokens)
  | @optional passed origin passes grown =>
    have extended := grown.extend (Machine.adopt cursor child frame) _ rfl rfl
      (joins (.inr (by rw [origin]; nofun)))
    have unjudged : (Machine.adopt cursor child frame).progressed = none :=
      (if_pos origin).trans waiting
    obtain ⟨symbol, production, index, name, selected, slot, same⟩ := calls.optional_passed origin
    obtain rfl : index = passed := Nat.succ.inj (same.symm.trans passes)
    apply Ready.free unjudged
    show machine.Grown tokens _ frame.element []
    rw [passes]
    exact extended.close selected slot (.inr ⟨_, rfl, _, _, _, by rw [name]⟩)

end Grown

namespace Growing

variable {machine : Machine} {tokens : List Token} {goal : String} {state : State}

theorem congr (growing : machine.Growing tokens goal state) {other : State}
    (stack : other.stack = state.stack) (result : other.result = state.result) :
    machine.Growing tokens goal other := by
  constructor
  · rw [stack]
    exact growing.top
  · rw [stack]
    exact growing.waiting
  · rw [stack]
    exact growing.derived
  · rw [result]
    exact growing.result

theorem replace (growing : machine.Growing tokens goal state) {frame other : Frame}
    {below : List Frame} (stack : state.stack = frame :: below) (alike : Alike frame other)
    (ready : machine.Ready tokens state.stack.length other)
    (derived : ∀ child ∈ other.children, Derivation machine.grammar tokens child) :
    machine.Growing tokens goal { state with stack := other :: below } := by
  have waiting := growing.waiting
  have grown := growing.derived
  rw [stack] at waiting grown ready
  obtain ⟨awaited, rest⟩ := List.isChain_cons.mp waiting
  obtain ⟨_, lower⟩ := List.forall_mem_cons.mp grown
  refine ⟨?_, List.isChain_cons.mpr ⟨?_, rest⟩, ?_, growing.result⟩
  · intro top head
    cases head
    exact ready
  · exact fun parent head => (awaited parent head).transport alike
  · exact List.forall_mem_cons.mpr ⟨derived, lower⟩

theorem lower (growing : machine.Growing tokens goal state) {frame parent other : Frame}
    {below : List Frame} (stack : state.stack = frame :: parent :: below)
    (alike : Alike parent other) (ready : machine.Ready tokens (below.length + 1) other)
    (derived : ∀ child ∈ other.children, Derivation machine.grammar tokens child) :
    machine.Growing tokens goal (popped state frame (other :: below)) := by
  have waiting := growing.waiting
  have grown := growing.derived
  rw [stack] at waiting grown
  obtain ⟨awaited, rest⟩ := List.isChain_cons.mp (List.isChain_cons.mp waiting).2
  obtain ⟨_, lower⟩ := List.forall_mem_cons.mp (List.forall_mem_cons.mp grown).2
  refine ⟨?_, List.isChain_cons.mpr ⟨?_, rest⟩, ?_, growing.result⟩
  · intro top head
    cases head
    exact ready
  · exact fun next head => (awaited next head).transport alike
  · exact List.forall_mem_cons.mpr ⟨derived, lower⟩

theorem enter (growing : machine.Growing tokens goal state) {frame slot : Frame}
    {below : List Frame} {symbol : String} {origin : Origin}
    (stack : state.stack = frame :: below) (alike : Alike frame slot)
    (children : slot.children = frame.children)
    (awaits : machine.Awaits tokens (fresh symbol origin state.cursor (slot :: below)) slot) :
    machine.Growing tokens goal (entered state symbol origin (slot :: below)) := by
  have waiting := growing.waiting
  have grown := growing.derived
  rw [stack] at waiting grown
  obtain ⟨awaited, rest⟩ := List.isChain_cons.mp waiting
  obtain ⟨derived, lower⟩ := List.forall_mem_cons.mp grown
  refine ⟨?_, List.isChain_cons.mpr ⟨?_, List.isChain_cons.mpr ⟨?_, rest⟩⟩, ?_, growing.result⟩
  · intro top head
    cases head
    exact .blank rfl
  · intro parent head
    cases head
    exact awaits
  · exact fun parent head => (awaited parent head).transport alike
  · rw [← children] at derived
    exact List.forall_mem_cons.mpr ⟨nofun, List.forall_mem_cons.mpr ⟨derived, lower⟩⟩

section Top

variable {frame parent : Frame} {below : List Frame}

theorem top_ready (growing : machine.Growing tokens goal state)
    (stack : state.stack = frame :: below) :
    machine.Ready tokens state.stack.length frame :=
  growing.top frame (by rw [stack]; rfl)

theorem top_derived (growing : machine.Growing tokens goal state)
    (stack : state.stack = frame :: below) :
    ∀ child ∈ frame.children, Derivation machine.grammar tokens child :=
  growing.derived frame (by rw [stack]; exact List.mem_cons_self)

theorem top_awaits (growing : machine.Growing tokens goal state)
    (stack : state.stack = frame :: parent :: below) : machine.Awaits tokens frame parent := by
  have waiting := growing.waiting
  rw [stack] at waiting
  exact (List.isChain_cons.mp waiting).1 parent rfl

theorem parent_derived (growing : machine.Growing tokens goal state)
    (stack : state.stack = frame :: parent :: below) :
    ∀ child ∈ parent.children, Derivation machine.grammar tokens child :=
  growing.derived parent (by rw [stack]; exact List.mem_cons_of_mem _ List.mem_cons_self)

theorem select (growing : machine.Growing tokens goal state)
    (standing : machine.Standing tokens goal state) (stack : state.stack = frame :: below)
    {production : Nat} (listed : production < (machine.table frame.symbol).length) :
    machine.Growing tokens goal (state.select frame below production) := by
  have grown : machine.Grown tokens (frame.select production) 0 [] :=
    grown_select (standing.top_upright stack) listed
  exact (growing.replace stack (.select frame production) (.free rfl grown) nofun).congr rfl rfl

theorem pass (growing : machine.Growing tokens goal state) (stack : state.stack = frame :: below)
    {element : Element} {current : List Tree} (slot : machine.element? frame = some element)
    (grown : machine.Grown tokens frame frame.element current)
    (suits : Suits tokens element current) :
    machine.Growing tokens goal { state with stack := frame.advance :: below } :=
  growing.replace stack (.advance frame) (.free rfl (grown.pass slot suits)) fun child member =>
    growing.top_derived stack child member

theorem shift (growing : machine.Growing tokens goal state) (stack : state.stack = frame :: below)
    {token : Token} {element : Element} (slot : machine.element? frame = some element)
    (free : machine.Grown tokens frame frame.element [])
    (suits : Suits tokens element [.leaf token.kind token.lexeme state.cursor (state.cursor + 1)]) :
    machine.Growing tokens goal (Machine.shift state token frame below) := by
  obtain ⟨production, selected, found⟩ := element?_eq_some slot
  let other : Frame := { frame.advance with children := frame.children ++
    [.leaf token.kind token.lexeme state.cursor (state.cursor + 1)] }
  have extended := free.extend other _ rfl rfl rfl
  have alike : Alike frame other := ⟨rfl, rfl, rfl, rfl⟩
  refine (growing.replace stack alike (.free rfl (extended.close selected found suits))
    fun child member => ?_).congr rfl rfl
  rcases List.mem_append.mp member with old | new
  · exact growing.top_derived stack child old
  · rw [List.mem_singleton] at new
    exact new ▸ .leaf

theorem completed (growing : machine.Growing tokens goal state)
    (stack : state.stack = frame :: below) {production : Production}
    (selected : machine.current? frame = some production)
    (done : production.length ≤ frame.element) :
    Derivation machine.grammar tokens
      (.branch frame.symbol frame.start state.cursor frame.children) :=
  (growing.top_ready stack).derivation selected done (growing.top_derived stack)

theorem adopt (growing : machine.Growing tokens goal state)
    (standing : machine.Standing tokens goal state)
    (stack : state.stack = frame :: parent :: below) {production : Production}
    (selected : machine.current? frame = some production)
    (done : production.length ≤ frame.element) :
    machine.Growing tokens goal
      (popped state frame (Machine.adopt state.cursor frame parent :: below)) := by
  have ready : machine.Ready tokens (below.length + 1)
      (Machine.adopt state.cursor frame parent) := by
    cases standing.top_tower stack with
    | push _ _ calls waiting => exact (growing.top_awaits stack).adopt calls waiting
  apply growing.lower stack (.adopt _ _ _) ready
  intro child member
  have parts : child ∈ parent.children ++
      [.branch frame.symbol frame.start state.cursor frame.children] := by
    simp only [Machine.adopt] at member
    split at member
    · exact member
    · exact List.mem_append_left _ member
  rcases List.mem_append.mp parts with old | new
  · exact growing.parent_derived stack child old
  · rw [List.mem_singleton] at new
    exact new ▸ growing.completed stack selected done

theorem drop (growing : machine.Growing tokens goal state)
    (standing : machine.Standing tokens goal state) (stack : state.stack = frame :: below)
    (needed : frame.origin.tentative = false) :
    machine.Growing tokens goal (popped state frame below) := by
  cases below with
  | nil => exact ⟨nofun, .nil, nofun, growing.result⟩
  | cons parent rest =>
    have waiting : parent.progressed = none := by
      cases standing.top_tower stack with
      | push _ _ _ waiting => exact waiting
    refine growing.lower stack (.refl parent) ?_ (growing.parent_derived stack)
    cases growing.top_awaits stack with
    | expand _ grown => exact .free waiting grown
    | again origin | optional origin =>
      rw [origin] at needed
      cases needed

theorem forgo (growing : machine.Growing tokens goal state)
    (standing : machine.Standing tokens goal state) (stack : state.stack = frame :: below)
    (origin : frame.origin = .optional) :
    machine.Growing tokens goal (popped state frame below) := by
  cases below with
  | nil => exact ⟨nofun, .nil, nofun, growing.result⟩
  | cons parent rest =>
    have tower := standing.top_tower stack
    cases tower with
    | push _ _ calls waiting =>
      refine growing.lower stack (.refl parent) ?_ (growing.parent_derived stack)
      cases growing.top_awaits stack with
      | expand other | again other =>
        rw [origin] at other
        cases other
      | @optional passed _ passes grown =>
        obtain ⟨symbol, production, index, name, selected, slot, same⟩ :=
          calls.optional_passed origin
        obtain rfl : index = passed := Nat.succ.inj (same.symm.trans passes)
        exact .free waiting (passes ▸ grown.close selected slot (.inl rfl))

theorem unrepeat (growing : machine.Growing tokens goal state)
    (standing : machine.Standing tokens goal state)
    (stack : state.stack = frame :: parent :: below) (origin : frame.origin = .again) :
    machine.Growing tokens goal (popped state frame (parent.advance :: below)) := by
  cases standing.top_tower stack with
  | push _ _ calls =>
    obtain ⟨symbol, name, slot⟩ := calls.required (by rw [origin]; nofun)
    refine growing.lower stack (.advance parent) ?_ fun child member =>
      growing.parent_derived stack child member
    cases growing.top_awaits stack with
    | expand other | optional other =>
      rw [origin] at other
      cases other
    | again _ grown repeated =>
      rw [← name] at repeated
      exact .free rfl (grown.pass slot (repeated.suits tokens))

theorem expand (growing : machine.Growing tokens goal state)
    (stack : state.stack = frame :: below) {symbol : NonTerminal} {origin : Origin}
    (slot : machine.element? frame = some (.required (.nonTerminal symbol)))
    (reason : frame.progressed = none ∧ origin = .expand ∨
      frame.progressed = some true ∧ origin = .again)
    (room : state.stack.length < machine.maxDepth) :
    machine.Growing tokens goal
      (entered state symbol.name origin ({ frame with progressed := none } :: below)) := by
  refine growing.enter stack ⟨rfl, rfl, rfl, rfl⟩ rfl ?_
  -- The verdict decides between the first expansion and another. A slot that an overflow
  -- robbed of its verdict is not entered, because the stack is full still.
  cases growing.top_ready stack with
  | blank unselected => exact absurd unselected (selected_of_element slot)
  | free waiting grown =>
    rcases reason with ⟨_, rfl⟩ | ⟨moved, _⟩
    · exact .expand rfl grown
    · rw [waiting] at moved
      cases moved
  | full _ _ _ _ full => exact absurd room (Nat.not_lt_of_le full)
  | @repeating other current progressed same grown repeated =>
    rcases reason with ⟨waiting, _⟩ | ⟨_, rfl⟩
    · rw [waiting] at progressed
      cases progressed
    · cases slot.symm.trans same
      exact .again rfl grown repeated
  | settled progressed =>
    rcases reason with ⟨other, _⟩ | ⟨other, _⟩
    · rw [other] at progressed
      cases progressed
    · rw [other] at progressed
      cases progressed

theorem overflow (growing : machine.Growing tokens goal state)
    (stack : state.stack = frame :: below) (wanted : frame.progressed ≠ some false)
    (full : machine.maxDepth ≤ state.stack.length) :
    machine.Growing tokens goal
      { state with stack := { frame with progressed := none } :: below } := by
  refine growing.replace stack ⟨rfl, rfl, rfl, rfl⟩ ?_ fun child member =>
    growing.top_derived stack child member
  cases growing.top_ready stack with
  | blank unselected => exact .blank unselected
  | free _ grown => exact .free rfl grown
  | full _ same grown repeated | repeating _ same grown repeated =>
    exact .full rfl same grown repeated full
  | settled idle => exact absurd idle wanted

end Top

/-- A turn adds to what is built, or throws it away. -/
theorem turn {after : State} (standing : machine.Standing tokens goal state)
    (turn : machine.Turn tokens state after) (growing : machine.Growing tokens goal state) :
    machine.Growing tokens goal after := by
  cases turn with
  | select stack _ listed => exact growing.select standing stack listed
  | @shift frame below token terminal stack there slot accepted =>
    have ready := growing.top_ready stack
    rcases slot with slot | slot
    · exact growing.shift stack slot (ready.free_of_slot slot nofun)
        ⟨state.cursor, token, there, accepted, rfl⟩
    · exact growing.shift stack slot (ready.free_of_slot slot nofun)
        (.inr ⟨state.cursor, token, there, accepted, rfl⟩)
  | @close frame below symbol stack slot idle =>
    cases growing.top_ready stack with
    | blank unselected => exact absurd unselected (selected_of_element slot)
    | free waiting | full waiting | repeating waiting =>
      rw [idle] at waiting
      cases waiting
    | @settled other current _ same grown suits => exact growing.pass stack same grown suits
  | @skip frame below symbol stack slot absent =>
    refine growing.pass stack slot ((growing.top_ready stack).free_of_slot slot nofun) ?_
    rcases absent with rfl | ⟨terminal, rfl, _⟩
    · rfl
    · exact .inl rfl
  | enter stack slot reason room => exact growing.expand stack slot reason room
  | @attempt frame below symbol stack slot room =>
    have free := (growing.top_ready stack).free_of_slot slot nofun
    exact growing.enter stack (.advance frame) rfl (.optional rfl rfl free)
  | @finish frame production stack selected done =>
    have derivation := growing.completed stack selected done
    refine ⟨nofun, .nil, nofun, fun tree found => ?_⟩
    cases found
    cases standing.top_tower stack with
    | base _ name => exact ⟨⟨_, _, _, by rw [name]⟩, derivation⟩
  | adopt stack selected done => exact growing.adopt standing stack selected done
  | drop stack _ _ needed => exact growing.drop standing stack needed
  | omitted stack _ _ origin => exact growing.forgo standing stack origin
  | unrepeated stack _ _ origin => exact growing.unrepeat standing stack origin
  | collapse => exact ⟨nofun, .nil, nofun, growing.result⟩
  | fail | leftover =>
    obtain ⟨failure, same⟩ := fail_eq state _ _
    rw [same]
    exact growing.congr rfl rfl
  | overflow stack _ wanted full => exact growing.overflow stack wanted full
  | @overflowOptional frame below symbol stack slot =>
    exact growing.pass stack slot ((growing.top_ready stack).free_of_slot slot nofun) (.inl rfl)

end Growing

theorem Reached.growing {machine : Machine} {tokens : List Token} {goal : String} {state : State}
    (known : machine.Knows goal) (reached : machine.Reached tokens goal state) :
    machine.Growing tokens goal state := by
  refine reached.invariant known ?_ Growing.turn
  refine pushGoal_cases (fun _ => ⟨nofun, .nil, nofun, nofun⟩) fun _ => ?_
  refine ⟨?_, .singleton _, List.forall_mem_singleton.mpr nofun, nofun⟩
  intro top head
  cases head
  exact .blank rfl

end Machine

end Descent
