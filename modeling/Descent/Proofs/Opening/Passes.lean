import Descent.Grammar.Opening

/-! The passes over a grammar come to an end.

A pass only adds to a table, and a pass that leaves the weight of a table alone leaves
the table alone. There are no more terminals to add than the rules mention, so that the
bound on the passes is never what stops them.
-/

set_option autoImplicit false

namespace Descent

-- The loop compares sizes only, before and after a pass. That a table of the same size is
-- the same table has to be known of every step that a pass is made of.
/-- Nothing got smaller, and what has the same size is the same. -/
structure Grows {Value : Type} (size : Value → Nat) (before after : Value) : Prop where
  le : size before ≤ size after
  same : size after = size before → after = before

namespace Grows

variable {Value : Type} {size : Value → Nat} {first second third : Value}

theorem refl (value : Value) : Grows size value value := ⟨Nat.le_refl _, fun _ => rfl⟩

theorem trans (left : Grows size first second) (right : Grows size second third) :
    Grows size first third := by
  refine ⟨Nat.le_trans left.le right.le, fun equal => ?_⟩
  have middle : size second = size first := Nat.le_antisymm (equal ▸ right.le) left.le
  rw [right.same (equal.trans middle.symm), left.same middle]

theorem halfway (left : Grows size first second) (right : Grows size second first) :
    second = first :=
  left.same (Nat.le_antisymm right.le left.le)

theorem foldl {Item : Type} {step : Value → Item → Value}
    (steps : ∀ value item, Grows size value (step value item)) (items : List Item)
    (value : Value) : Grows size value (items.foldl step value) := by
  induction items generalizing value with
  | nil => exact refl value
  | cons item rest ih => exact (steps value item).trans (ih _)

theorem foldl_fixed {Item : Type} {step : Value → Item → Value}
    (steps : ∀ value item, Grows size value (step value item)) {items : List Item}
    {value : Value} (fixed : items.foldl step value = value) :
    ∀ item ∈ items, step value item = value := by
  induction items with
  | nil => exact nofun
  | cons item rest ih =>
    have later : Grows size (step value item) value := by
      have rest_grows := foldl steps rest (step value item)
      rwa [show rest.foldl step (step value item) = value from fixed] at rest_grows
    have first : step value item = value := (steps value item).halfway later
    intro other member
    rcases List.mem_cons.mp member with rfl | inRest
    · exact first
    · rw [List.foldl_cons, first] at fixed
      exact ih fixed other inRest

end Grows

namespace TerminalSet

theorem grows_insert (set : TerminalSet) (terminal : Terminal) :
    Grows size set (set.insert terminal) := by
  refine ⟨size_le_size_insert set terminal, ?_⟩
  unfold insert size
  split
  · exact fun _ => rfl
  · simp

theorem grows_merge (set other : TerminalSet) : Grows size set (set.merge other) :=
  Grows.foldl grows_insert other.toList set

theorem mem_criteria_merge (set other : TerminalSet) (criterion : Criterion) :
    criterion ∈ (set.merge other).criteria ↔
      criterion ∈ set.criteria ∨ criterion ∈ other.criteria := by
  unfold merge
  rw [show other.criteria = other.toList.map Terminal.criterion from rfl]
  generalize other.toList = terminals
  induction terminals generalizing set with
  | nil => simp
  | cons terminal rest ih => simp [ih, mem_criteria_insert, or_assoc]

end TerminalSet

theorem Opening.grows_merge (opening : Opening) (set : TerminalSet) :
    Grows weight opening { opening with first := opening.first.merge set } := by
  obtain ⟨le, same⟩ := TerminalSet.grows_merge opening.first set
  refine ⟨Nat.add_le_add_right le _, fun weight => ?_⟩
  rw [same (Nat.add_right_cancel weight)]

theorem Opening.grows_nullable (opening : Opening) :
    Grows weight opening { opening with nullable := true } := by
  obtain ⟨first, nullable⟩ := opening
  cases nullable with
  | true => exact .refl _
  | false => exact ⟨Nat.le_succ _, fun equal => absurd equal (Nat.succ_ne_self _)⟩

namespace OpeningTable

def names (table : OpeningTable) : List String := table.map Prod.fst

section Update

variable {table : OpeningTable} {name other : String} {change : Opening → Opening}

theorem update_cons (key : String) (opening : Opening) (rest : OpeningTable) :
    update ((key, opening) :: rest) name change =
      (key, if key = name then change opening else opening) :: rest.update name change := by
  unfold update
  by_cases same : key = name <;> simp [same]

theorem opening_cons (key : String) (opening : Opening) (rest : OpeningTable) (name : String) :
    OpeningTable.opening ((key, opening) :: rest) name =
      if name = key then opening else rest.opening name := by
  unfold OpeningTable.opening
  rw [List.lookup_cons]
  by_cases same : name = key
  · simp [same]
  · simp [same, beq_eq_false_iff_ne.mpr same]

theorem names_update : (table.update name change).names = table.names := by
  induction table with
  | nil => rfl
  | cons entry rest ih =>
    rw [update_cons]
    exact congrArg (List.cons entry.1) ih

theorem grows_update (table : OpeningTable) (name : String)
    (grows : ∀ opening : Opening, Grows Opening.weight opening (change opening)) :
    Grows weight table (table.update name change) := by
  induction table with
  | nil => exact .refl []
  | cons entry rest ih =>
    obtain ⟨key, opening⟩ := entry
    rw [update_cons]
    have head : Grows Opening.weight opening (if key = name then change opening else opening) := by
      split
      · exact grows opening
      · exact .refl opening
    generalize (if key = name then change opening else opening) = changed at head ⊢
    refine ⟨Nat.add_le_add head.le ih.le, fun equal => ?_⟩
    have sum : changed.weight + weight (update rest name change) =
        opening.weight + weight rest := equal
    have head_le := head.le
    have rest_le := ih.le
    rw [head.same (by omega), ih.same (by omega)]

theorem opening_update_self (member : name ∈ table.names) :
    (table.update name change).opening name = change (table.opening name) := by
  induction table with
  | nil => cases member
  | cons entry rest ih =>
    obtain ⟨key, opening⟩ := entry
    rw [update_cons, opening_cons, opening_cons]
    by_cases same : name = key
    · rw [if_pos same, if_pos same, if_pos same.symm]
    · rw [if_neg same, if_neg same]
      exact ih ((List.mem_cons.mp member).resolve_left same)

theorem opening_update_other (apart : other ≠ name) :
    (table.update name change).opening other = table.opening other := by
  induction table with
  | nil => rfl
  | cons entry rest ih =>
    obtain ⟨key, opening⟩ := entry
    rw [update_cons, opening_cons, opening_cons, ih]
    by_cases same : other = key
    · rw [if_pos same, if_pos same, if_neg (same ▸ apart)]
    · rw [if_neg same, if_neg same]

theorem update_absent (absent : name ∉ table.names) : table.update name change = table := by
  induction table with
  | nil => rfl
  | cons entry rest ih =>
    obtain ⟨key, opening⟩ := entry
    obtain ⟨apart, later⟩ := List.ne_and_not_mem_of_not_mem_cons absent
    rw [update_cons, if_neg (Ne.symm apart), ih later]

theorem opening_update (table : OpeningTable) (name : String) (change : Opening → Opening)
    (other : String) :
    (table.update name change).opening other = table.opening other ∨
      other = name ∧ (table.update name change).opening other = change (table.opening other) := by
  by_cases same : other = name
  · subst same
    by_cases member : other ∈ table.names
    · exact .inr ⟨rfl, opening_update_self member⟩
    · exact .inl (by rw [update_absent member])
  · exact .inl (opening_update_other same)

end Update

section Passes

variable {table : OpeningTable} {rules : List Definition}

theorem grows_absorb (name : String) (table : OpeningTable) (production : Production) :
    Grows weight table (absorb name table production) := by
  induction production generalizing table with
  | nil => exact grows_update table name Opening.grows_nullable
  | cons element rest ih =>
    have extended := grows_update table name fun opening =>
      opening.grows_merge (table.ofElement element).first
    unfold absorb
    dsimp only
    split
    · exact extended.trans (ih _)
    · exact extended

theorem grows_rule (table : OpeningTable) (rule : Definition) :
    Grows weight table (rule.productions.foldl (absorb rule.head.name) table) :=
  Grows.foldl (grows_absorb rule.head.name) rule.productions table

theorem grows_pass (rules : List Definition) (table : OpeningTable) :
    Grows weight table (pass rules table) :=
  Grows.foldl grows_rule rules table

/-- A pass that adds nothing absorbs nothing from any production. -/
theorem absorb_fixed (fixed : pass rules table = table) {rule : Definition}
    (member : rule ∈ rules) {production : Production} (listed : production ∈ rule.productions) :
    absorb rule.head.name table production = table := by
  have ruled := Grows.foldl_fixed grows_rule fixed rule member
  exact Grows.foldl_fixed (grows_absorb rule.head.name) ruled production listed

def alphabet (rules : List Definition) : List Criterion :=
  (rules.flatMap Definition.terminals).map Terminal.criterion

/-- A table for the rules that holds no other terminals than theirs. -/
structure Within (rules : List Definition) (table : OpeningTable) : Prop where
  names : table.names = rules.map fun rule => rule.head.name
  first : ∀ entry ∈ table, entry.2.first.criteria ⊆ alphabet rules

namespace Within

theorem opening (within : Within rules table) (name : String) :
    (table.opening name).first.criteria ⊆ alphabet rules := by
  unfold OpeningTable.opening
  cases found : table.lookup name with
  | none => exact List.nil_subset _
  | some opening =>
    obtain ⟨front, back, rfl, _⟩ := List.lookup_eq_some_iff.mp found
    exact within.first (name, opening) (by simp)

theorem ofElement (within : Within rules table) {element : Element} {rest : Production}
    (terminals : ∀ terminal ∈ Production.terminals (element :: rest),
      terminal.criterion ∈ alphabet rules) :
    (table.ofElement element).first.criteria ⊆ alphabet rules := by
  have single {terminal : Terminal}
      (mentioned : element.symbol?.bind Symbol.terminal? = some terminal) :
      (TerminalSet.single terminal).criteria ⊆ alphabet rules := by
    intro criterion member
    rw [List.mem_singleton.mp member]
    exact terminals terminal (List.mem_filterMap.mpr ⟨element, List.mem_cons_self, mentioned⟩)
  rcases element with (terminal | symbol) | (_ | terminal | symbol)
  · exact single rfl
  · exact within.opening symbol.name
  · exact List.nil_subset _
  · exact single rfl
  · exact within.opening symbol.name

theorem update (within : Within rules table) {name : String} {change : Opening → Opening}
    (keeps : ∀ opening : Opening, opening.first.criteria ⊆ alphabet rules →
      (change opening).first.criteria ⊆ alphabet rules) :
    Within rules (table.update name change) := by
  refine ⟨names_update.trans within.names, fun entry member => ?_⟩
  obtain ⟨old, inTable, rfl⟩ := List.mem_map.mp member
  split
  · exact keeps old.2 (within.first old inTable)
  · exact within.first old inTable

theorem absorb (within : Within rules table) {name : String} {production : Production}
    (terminals : ∀ terminal ∈ production.terminals, terminal.criterion ∈ alphabet rules) :
    Within rules (OpeningTable.absorb name table production) := by
  induction production generalizing table with
  | nil => exact within.update fun _ inside => inside
  | cons element rest ih =>
    have start := within.ofElement terminals
    have extended : Within rules (table.update name fun opening =>
        { opening with first := opening.first.merge (table.ofElement element).first }) := by
      apply within.update
      intro opening inside criterion member
      rcases (TerminalSet.mem_criteria_merge _ _ criterion).mp member with old | new
      · exact inside old
      · exact start new
    unfold OpeningTable.absorb
    dsimp only
    split
    · refine ih extended fun terminal member => terminals terminal ?_
      obtain ⟨other, inRest, mentioned⟩ := List.mem_filterMap.mp member
      exact List.mem_filterMap.mpr ⟨other, List.mem_cons_of_mem _ inRest, mentioned⟩
    · exact extended

theorem pass (within : Within rules table) : Within rules (OpeningTable.pass rules table) := by
  unfold OpeningTable.pass
  refine List.foldlRecOn rules _ within fun table within rule member => ?_
  refine List.foldlRecOn rule.productions _ within fun table within production listed => ?_
  refine within.absorb fun terminal mentioned => List.mem_map_of_mem ?_
  exact List.mem_flatMap.mpr ⟨rule, member, List.mem_flatMap.mpr ⟨production, listed, mentioned⟩⟩

end Within

theorem opening_weight_le {opening : Opening} {criteria : List Criterion}
    (inside : opening.first.criteria ⊆ criteria) : opening.weight ≤ criteria.length + 1 := by
  have size : opening.first.size ≤ criteria.length := by
    have bound := List.Nodup.length_le_of_subset opening.first.distinct inside
    rwa [List.length_map] at bound
  unfold Opening.weight
  split <;> omega

theorem Within.weight_lt (within : Within rules table) : table.weight < passBound rules := by
  have bound : table.weight ≤ table.length * ((alphabet rules).length + 1) := by
    have first := within.first
    clear within
    induction table with
    | nil => exact Nat.zero_le _
    | cons entry rest ih =>
      have head := opening_weight_le (first entry List.mem_cons_self)
      have tail := ih fun other member => first other (List.mem_cons_of_mem _ member)
      rw [List.length_cons, Nat.succ_mul, Nat.add_comm]
      exact Nat.add_le_add head tail
  have length : table.length = rules.length := by
    have same := congrArg List.length within.names
    unfold OpeningTable.names at same
    rwa [List.length_map, List.length_map] at same
  unfold passBound
  rw [length] at bound
  simpa [alphabet, Nat.lt_succ_iff] using bound

/-- The loop as it is meant, without a bound: passes until one adds nothing. -/
inductive Settles (rules : List Definition) : OpeningTable → OpeningTable → Prop where
  | stop {table : OpeningTable} (fixed : pass rules table = table) : Settles rules table table
  | more {table last : OpeningTable} (added : pass rules table ≠ table)
      (after : Settles rules (pass rules table) last) : Settles rules table last

def bottom (rules : List Definition) : OpeningTable :=
  rules.map fun rule => (rule.head.name, Opening.bottom)

theorem within_bottom (rules : List Definition) : Within rules (bottom rules) := by
  refine ⟨by simp [names, bottom], fun entry member => ?_⟩
  obtain ⟨rule, _, rfl⟩ := List.mem_map.mp member
  exact List.nil_subset _

theorem saturate_settles (within : Within rules table) {passes : Nat}
    (enough : passBound rules ≤ table.weight + passes) :
    Settles rules table (saturate rules passes table) := by
  -- A table that needed more passes than these would outweigh all tables for the rules.
  induction passes generalizing table with
  | zero => exact absurd within.weight_lt (Nat.not_lt_of_le enough)
  | succ passes ih =>
    have grows := grows_pass rules table
    unfold saturate
    dsimp only
    by_cases still : (pass rules table).weight = table.weight
    · rw [if_pos still, grows.same still]
      exact .stop (grows.same still)
    · rw [if_neg still]
      have more : table.weight < (pass rules table).weight :=
        Nat.lt_of_le_of_ne grows.le (Ne.symm still)
      exact .more (fun fixed => still (by rw [fixed])) (ih within.pass (by omega))

theorem ofRules_settles (rules : List Definition) :
    Settles rules (bottom rules) (ofRules rules) :=
  saturate_settles (within_bottom rules) (Nat.le_add_left _ _)

theorem Settles.fixed {last : OpeningTable} (settles : Settles rules table last) :
    pass rules last = last := by
  induction settles with
  | stop fixed => exact fixed
  | more _ _ ih => exact ih

/-- What holds at first and is kept by every pass holds at last. -/
theorem Settles.invariant {last : OpeningTable} {Holds : OpeningTable → Prop}
    (settles : Settles rules table last) (start : Holds table)
    (kept : ∀ {table}, Holds table → Holds (pass rules table)) : Holds last := by
  induction settles with
  | stop => exact start
  | more _ _ ih => exact ih (kept start)

end Passes

end OpeningTable

end Descent
