import Descent.Machine

/-! The weight of a stack: how much the machine can still do without a token.

The rank of a frame counts its untried productions, the elements left in the
current one, and what is left to happen at the current slot. A frame weighs more
than any frames that can be pushed on top of it, so a push costs its parent more
than the new frame weighs.
-/

set_option autoImplicit false

namespace Descent

namespace Machine

def table (machine : Machine) (symbol : String) : List Production :=
  (machine.grammar.productions? symbol).getD []

def total (numbers : List Nat) : Nat := numbers.foldr (· + ·) 0

/-- No list of productions and no production is longer. -/
def extent (machine : Machine) : Nat :=
  total (machine.grammar.rules.map fun rule =>
    rule.productions.length + total (rule.productions.map List.length))

/-- More than anything that can happen within one production. -/
def stride (machine : Machine) : Nat := 5 * machine.extent + 5

/-- More than one above any rank. -/
def base (machine : Machine) : Nat := machine.stride * machine.extent + 2

def untried (machine : Machine) (frame : Frame) : Nat :=
  match frame.production with
  | none => (machine.table frame.symbol).length
  | some production => (machine.table frame.symbol).length - 1 - production

/-- What is left to happen at a slot, going by the last child: expand it, expand
it again, or leave it. -/
def openness (progressed : Option Bool) : Nat :=
  match progressed with
  | none => 4
  | some true => 3
  | some false => 1

/-- What a child on top makes of its parent's slot, unless it is optional, when the
parent has left the slot already. -/
def pressure (cursor : Nat) (child : Frame) : Option Nat :=
  if child.origin = .optional then none else if child.start < cursor then some 4 else some 2

/-- What is left to do in the current production. -/
def slack (machine : Machine) (imposed : Option Nat) (frame : Frame) : Nat :=
  match frame.production.bind ((machine.table frame.symbol)[·]?) with
  | none => 0
  | some production =>
    if frame.element < production.length then
      5 * (production.length - frame.element) + imposed.getD (openness frame.progressed)
    else 0

def rank (machine : Machine) (imposed : Option Nat) (frame : Frame) : Nat :=
  machine.stride * machine.untried frame + machine.slack imposed frame

def unit (machine : Machine) (below : List Frame) : Nat :=
  Nat.pow machine.base (machine.maxDepth - below.length)

def weight (machine : Machine) (cursor : Nat) (imposed : Option Nat) : List Frame → Nat
  | [] => 0
  | frame :: below =>
    (machine.rank imposed frame + 1) * machine.unit below +
      machine.weight cursor (pressure cursor frame) below

def remaining (state : State) : Nat := (state.tokens.getD []).length - state.cursor

def burden (machine : Machine) (state : State) : Nat :=
  machine.weight state.cursor none state.stack

section Bounds

variable (machine : Machine)

theorem table_mem (symbol : String) :
    machine.table symbol = [] ∨
      ∃ rule ∈ machine.grammar.rules, rule.productions = machine.table symbol := by
  unfold table Grammar.productions?
  cases found : machine.grammar.rules.find? fun rule => rule.head.name == symbol with
  | none => exact Or.inl rfl
  | some rule => exact Or.inr ⟨rule, List.mem_of_find?_eq_some found, rfl⟩

theorem le_total_of_mem {x : Nat} {xs : List Nat} (member : x ∈ xs) : x ≤ total xs := by
  induction xs with
  | nil => simp at member
  | cons y ys ih =>
    have : total (y :: ys) = y + total ys := rfl
    rw [this]
    rcases List.mem_cons.mp member with rfl | later
    · omega
    · have := ih later
      omega

theorem table_extent (symbol : String) :
    (machine.table symbol).length + total ((machine.table symbol).map List.length) ≤
      machine.extent := by
  rcases machine.table_mem symbol with empty | ⟨rule, member, same⟩
  · simp [empty, total]
  · rw [← same]
    exact le_total_of_mem (List.mem_map.mpr ⟨rule, member, rfl⟩)

theorem table_length_le (symbol : String) : (machine.table symbol).length ≤ machine.extent := by
  have := machine.table_extent symbol
  omega

theorem production_length_le {symbol : String} {production : Production}
    (member : production ∈ machine.table symbol) : production.length ≤ machine.extent := by
  have bound := machine.table_extent symbol
  have : production.length ≤ total ((machine.table symbol).map List.length) :=
    le_total_of_mem (List.mem_map.mpr ⟨production, member, rfl⟩)
  omega

theorem untried_le (frame : Frame) : machine.untried frame ≤ machine.extent := by
  have := machine.table_length_le frame.symbol
  unfold untried
  split <;> omega

theorem slack_lt (frame : Frame) : machine.slack none frame < machine.stride := by
  unfold slack stride
  split
  · omega
  · rename_i production selected
    split
    · have short : production.length ≤ machine.extent := by
        obtain ⟨index, _, found⟩ := Option.bind_eq_some_iff.mp selected
        exact machine.production_length_le (List.mem_of_getElem? found)
      have : openness frame.progressed ≤ 4 := by
        unfold openness
        split <;> omega
      simp only [Option.getD_none]
      omega
    · omega

theorem rank_lt_of_untried_lt (imposed : Option Nat) {next frame : Frame}
    (fewer : machine.untried next < machine.untried frame) :
    machine.rank none next < machine.stride * machine.untried frame ∧
      machine.stride * machine.untried frame ≤ machine.rank imposed frame := by
  have := machine.slack_lt next
  have := Nat.mul_le_mul_left machine.stride (Nat.succ_le_of_lt fewer)
  rw [Nat.mul_succ] at this
  unfold rank
  omega

theorem base_pos : 0 < machine.base := by unfold base; omega

theorem unit_pos (below : List Frame) : 0 < machine.unit below := Nat.pow_pos machine.base_pos

theorem fresh_weight_lt {frame parent : Frame} {below : List Frame}
    (unselected : frame.production = none) (room : (parent :: below).length < machine.maxDepth) :
    (machine.rank none frame + 1) * machine.unit (parent :: below) < machine.unit below := by
  have small : machine.rank none frame + 1 < machine.base := by
    have := Nat.mul_le_mul_left machine.stride (machine.untried_le frame)
    unfold rank slack base
    simp only [unselected, Option.bind_none]
    omega
  rw [List.length_cons] at room
  have step : machine.maxDepth - below.length =
      (machine.maxDepth - (parent :: below).length) + 1 := by
    rw [List.length_cons]
    omega
  unfold unit
  rw [step, Nat.mul_comm]
  exact Nat.mul_lt_mul_of_pos_left small (Nat.pow_pos machine.base_pos)

end Bounds

section Weight

variable (machine : Machine) {cursor : Nat}

theorem weight_cons {imposed : Option Nat} (frame : Frame) (below : List Frame) :
    machine.weight cursor imposed (frame :: below) =
      (machine.rank imposed frame + 1) * machine.unit below +
        machine.weight cursor (pressure cursor frame) below := rfl

theorem weight_top_lt {imposed : Option Nat} {top other : Frame} {below : List Frame}
    (origin : top.origin = other.origin) (start : top.start = other.start)
    (lower : machine.rank none top < machine.rank imposed other) :
    machine.weight cursor none (top :: below) <
      machine.weight cursor imposed (other :: below) := by
  have same : pressure cursor top = pressure cursor other := by
    unfold pressure
    rw [origin, start]
  have := Nat.mul_lt_mul_of_pos_right (Nat.add_lt_add_right lower 1) (machine.unit_pos below)
  unfold weight
  rw [same]
  omega

theorem weight_top_le {imposed : Option Nat} {top other : Frame} {below : List Frame}
    (origin : top.origin = other.origin) (start : top.start = other.start)
    (lower : machine.rank none top ≤ machine.rank imposed other) :
    machine.weight cursor none (top :: below) ≤
      machine.weight cursor imposed (other :: below) := by
  have same : pressure cursor top = pressure cursor other := by
    unfold pressure
    rw [origin, start]
  have := Nat.mul_le_mul_right (machine.unit below) (Nat.add_le_add_right lower 1)
  unfold weight
  rw [same]
  omega

theorem weight_below_lt (cursor : Nat) (imposed : Option Nat) (frame : Frame)
    (below : List Frame) :
    machine.weight cursor (pressure cursor frame) below <
      machine.weight cursor imposed (frame :: below) := by
  have : 0 < (machine.rank imposed frame + 1) * machine.unit below :=
    Nat.mul_pos (Nat.succ_pos _) (machine.unit_pos below)
  rw [weight]
  omega

end Weight

end Machine

end Descent
