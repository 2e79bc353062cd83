import Descent.Machine.Measure
import Descent.Proofs.Rules

/-! How the frames of a stack fit together.

The goal lies at the bottom. Every other frame was called for by the frame below
it, which still stands at the slot, or just behind it if the slot is optional. No
frame starts before the one below it, and the markers are those of the frames.
-/

set_option autoImplicit false

namespace Descent

namespace Machine

def Knows (machine : Machine) (symbol : String) : Prop := machine.grammar.Knows symbol

def current? (machine : Machine) (frame : Frame) : Option Production :=
  frame.production.bind ((machine.table frame.symbol)[·]?)

/-- The element that a frame stands at, none if it has passed the last. -/
def element? (machine : Machine) (frame : Frame) : Option Element :=
  (machine.current? frame).bind (·[frame.element]?)

section Table

variable {machine : Machine} {symbol : String}

theorem productionsOf_eq (known : machine.Knows symbol) :
    machine.grammar.productionsOf symbol = .ok (machine.table symbol) := by
  obtain ⟨rule, _, found⟩ := Grammar.productions?_eq known
  unfold Grammar.productionsOf table
  rw [found]
  rfl

theorem table_ne_nil (known : machine.Knows symbol) : machine.table symbol ≠ [] := by
  obtain ⟨rule, _, found⟩ := Grammar.productions?_eq known
  unfold table
  rw [found]
  exact rule.nonempty

theorem lists_of_mem_table {production : Production}
    (listed : production ∈ machine.table symbol) :
    machine.grammar.Lists symbol production := by
  unfold table at listed
  cases found : machine.grammar.productions? symbol with
  | none => simp [found] at listed
  | some productions =>
    rw [found] at listed
    exact Grammar.lists_of_productions? found listed

theorem mem_table {production : Production} :
    production ∈ machine.table symbol ↔ machine.grammar.Lists symbol production := by
  refine ⟨lists_of_mem_table, fun listed => ?_⟩
  obtain ⟨productions, found, member⟩ := Grammar.productions?_of_lists listed
  unfold table
  rw [found]
  exact member

theorem knows_of_mem {production : Production} {element : Element} {called : NonTerminal}
    (listed : production ∈ machine.table symbol) (member : element ∈ production)
    (calls : element.symbol? = some (.nonTerminal called)) : machine.Knows called.name := by
  rcases machine.table_mem symbol with empty | ⟨rule, rules, same⟩
  · simp [empty] at listed
  · exact Grammar.knows_of_mention rules (same ▸ listed) member calls

variable {frame : Frame} {production : Production} {element : Element}

theorem current?_mem (current : machine.current? frame = some production) :
    production ∈ machine.table frame.symbol := by
  obtain ⟨index, _, found⟩ := Option.bind_eq_some_iff.mp current
  exact List.mem_of_getElem? found

theorem element?_eq_some (standing : machine.element? frame = some element) :
    ∃ production, machine.current? frame = some production ∧
      production[frame.element]? = some element :=
  Option.bind_eq_some_iff.mp standing

theorem knows_of_element {called : NonTerminal} (standing : machine.element? frame = some element)
    (calls : element.symbol? = some (.nonTerminal called)) : machine.Knows called.name := by
  obtain ⟨production, current, found⟩ := element?_eq_some standing
  exact knows_of_mem (current?_mem current) (List.mem_of_getElem? found) calls

theorem production_ne_none (current : machine.current? frame = some production) :
    frame.production ≠ none := by
  intro unselected
  simp [current?, unselected] at current

theorem selected_of_element (standing : machine.element? frame = some element) :
    frame.production ≠ none := by
  obtain ⟨_, current, _⟩ := element?_eq_some standing
  exact production_ne_none current

end Table

/-- Two stages of one frame: where it began, and why, never changes. -/
structure Alike (before after : Frame) : Prop where
  symbol : after.symbol = before.symbol
  marker : after.marker = before.marker
  start : after.start = before.start
  origin : after.origin = before.origin

theorem Alike.refl (frame : Frame) : Alike frame frame := ⟨rfl, rfl, rfl, rfl⟩

theorem Alike.trans {first second third : Frame} (left : Alike first second)
    (right : Alike second third) : Alike first third :=
  ⟨right.symbol.trans left.symbol, right.marker.trans left.marker,
    right.start.trans left.start, right.origin.trans left.origin⟩

theorem Alike.select (frame : Frame) (production : Nat) :
    Alike frame (frame.select production) := ⟨rfl, rfl, rfl, rfl⟩

theorem Alike.select_eq {frame held : Frame} (alike : Alike frame held) (production : Nat) :
    held.select production = frame.select production := by
  obtain ⟨symbol, marker, start, origin⟩ := alike
  unfold Frame.select
  rw [symbol, marker, start, origin]

theorem Alike.advance (frame : Frame) : Alike frame frame.advance := ⟨rfl, rfl, rfl, rfl⟩

theorem Alike.adopt (cursor : Nat) (child parent : Frame) :
    Alike parent (adopt cursor child parent) := ⟨rfl, rfl, rfl, rfl⟩

def fresh (symbol : String) (origin : Origin) (cursor : Nat) (below : List Frame) : Frame :=
  ⟨symbol, ⟨symbol, cursor, below.map Frame.symbol⟩, cursor, origin, none, 0, none, []⟩

/-- The marker of a frame names what the frame is and what lies below it. -/
def Keyed : List Frame → Prop
  | [] => True
  | frame :: below =>
    frame.marker = ⟨frame.symbol, frame.start, below.map Frame.symbol⟩ ∧ Keyed below

/-- The context of a marker is as long as the stack below its frame, so that no two
frames share one and a push finds its own marker free. -/
theorem Keyed.context_length_lt {stack : List Frame} (keyed : Keyed stack) :
    ∀ frame ∈ stack, frame.marker.context.length < stack.length := by
  induction stack with
  | nil => simp
  | cons top below ih =>
    intro frame member
    rcases List.mem_cons.mp member with rfl | lower
    · rw [keyed.1, List.length_map]
      exact Nat.lt_succ_self _
    · exact Nat.lt_succ_of_lt (ih keyed.2 frame lower)

/-- What holds of a frame by itself. Only a required nonterminal has a verdict on
its last expansion. -/
structure Upright (machine : Machine) (frame : Frame) : Prop where
  known : machine.Knows frame.symbol
  chosen : frame.production ≠ none →
    ∃ production, machine.current? frame = some production ∧ frame.element ≤ production.length
  blank : frame.production = none →
    frame.element = 0 ∧ frame.progressed = none ∧ frame.children = []
  judged : frame.progressed ≠ none →
    ∃ symbol, machine.element? frame = some (.required (.nonTerminal symbol))

inductive Calls (machine : Machine) (parent child : Frame) : Prop where
  | expand {symbol : NonTerminal}
      (slot : machine.element? parent = some (.required (.nonTerminal symbol)))
      (name : symbol.name = child.symbol) (origin : child.origin = .expand)
  | again {symbol : NonTerminal}
      (slot : machine.element? parent = some (.required (.nonTerminal symbol)))
      (name : symbol.name = child.symbol) (origin : child.origin = .again)
      (later : parent.start < child.start)
  -- An optional slot is passed before its child is pushed, so that the parent stands
  -- behind it and may have no further element.
  | optional {symbol : NonTerminal} {production : Production} {index : Nat}
      (current : machine.current? parent = some production)
      (slot : production[index]? = some (.optional (some (.nonTerminal symbol))))
      (passed : parent.element = index + 1)
      (name : symbol.name = child.symbol) (origin : child.origin = .optional)

/-- A stack, its top first, with the goal at the bottom. -/
inductive Tower (machine : Machine) (goal : String) : List Frame → Prop where
  | empty : Tower machine goal []
  | base {frame : Frame} (upright : machine.Upright frame) (symbol : frame.symbol = goal)
      (origin : frame.origin = .goal) (start : frame.start = 0)
      (marker : frame.marker = ⟨frame.symbol, frame.start, []⟩) : Tower machine goal [frame]
  | push {child parent : Frame} {below : List Frame} (tower : Tower machine goal (parent :: below))
      (upright : machine.Upright child) (calls : machine.Calls parent child)
      (waiting : parent.progressed = none) (order : parent.start ≤ child.start)
      (marker : child.marker =
        ⟨child.symbol, child.start, (parent :: below).map Frame.symbol⟩) :
      Tower machine goal (child :: parent :: below)

namespace Calls

variable {machine : Machine} {parent child : Frame}

theorem selected (calls : machine.Calls parent child) : parent.production ≠ none := by
  cases calls with
  | expand slot | again slot => exact selected_of_element slot
  | optional current => exact production_ne_none current

theorem required (calls : machine.Calls parent child) (needed : child.origin ≠ .optional) :
    ∃ symbol : NonTerminal, symbol.name = child.symbol ∧
      machine.element? parent = some (.required (.nonTerminal symbol)) := by
  cases calls with
  | expand slot name | again slot name => exact ⟨_, name, slot⟩
  | optional _ _ _ _ origin => exact absurd origin needed

theorem optional_passed (calls : machine.Calls parent child) (origin : child.origin = .optional) :
    ∃ symbol production index, NonTerminal.name symbol = child.symbol ∧
      machine.current? parent = some production ∧
      production[index]? = some (.optional (some (.nonTerminal symbol))) ∧
      parent.element = index + 1 := by
  cases calls with
  | expand _ _ other | again _ _ other =>
    rw [origin] at other
    cases other
  | optional current slot passed name => exact ⟨_, _, _, name, current, slot, passed⟩

theorem transport {other : Frame} (calls : machine.Calls parent child)
    (alike : Alike child other) : machine.Calls parent other := by
  cases calls with
  | expand slot name origin =>
    exact .expand slot (name.trans alike.symbol.symm) (alike.origin.trans origin)
  | again slot name origin later =>
    exact .again slot (name.trans alike.symbol.symm) (alike.origin.trans origin)
      (alike.start ▸ later)
  | optional current slot passed name origin =>
    exact .optional current slot passed (name.trans alike.symbol.symm)
      (alike.origin.trans origin)

end Calls

namespace Tower

variable {machine : Machine} {goal : String} {frame other : Frame} {below : List Frame}

theorem top_upright (tower : machine.Tower goal (frame :: below)) : machine.Upright frame := by
  cases tower with
  | base upright => exact upright
  | push _ upright => exact upright

theorem upright {stack : List Frame} (tower : machine.Tower goal stack) :
    ∀ frame ∈ stack, machine.Upright frame := by
  induction tower with
  | empty => nofun
  | base upright => exact List.forall_mem_singleton.mpr upright
  | push _ upright _ _ _ _ ih => exact List.forall_mem_cons.mpr ⟨upright, ih⟩

theorem pop (tower : machine.Tower goal (frame :: below)) : machine.Tower goal below := by
  cases tower with
  | base => exact .empty
  | push tower => exact tower

theorem replace (tower : machine.Tower goal (frame :: below)) (alike : Alike frame other)
    (upright : machine.Upright other) : machine.Tower goal (other :: below) := by
  cases tower with
  | base _ symbol origin start marker =>
    refine .base upright (alike.symbol.trans symbol) (alike.origin.trans origin)
      (alike.start.trans start) ?_
    rw [alike.marker, alike.symbol, alike.start]
    exact marker
  | push tower _ calls waiting order marker =>
    refine .push tower upright (calls.transport alike) waiting (alike.start ▸ order) ?_
    rw [alike.marker, alike.symbol, alike.start]
    exact marker

theorem bottom {stack : List Frame} (tower : machine.Tower goal stack)
    (last : stack.getLast? = some frame) :
    frame.origin = .goal ∧ frame.start = 0 ∧ frame.symbol = goal := by
  induction tower with
  | empty => cases last
  | base _ symbol origin start =>
    cases last
    exact ⟨origin, start, symbol⟩
  | push _ _ _ _ _ _ ih =>
    rw [List.getLast?_cons_cons] at last
    exact ih last

theorem keyed {stack : List Frame} (tower : machine.Tower goal stack) : Keyed stack := by
  induction tower with
  | empty => exact trivial
  | base _ _ _ _ marker => exact ⟨marker, trivial⟩
  | push _ _ _ _ _ marker ih => exact ⟨marker, ih⟩

end Tower

end Machine

end Descent
