import Mathlib.Data.List.Nodup
import Mathlib.Data.List.Perm.Subperm
import Descent.Grammar.Exploration
import Descent.Proofs.Evaluation.Capacity
import Descent.Proofs.Evaluation.Sound

/-! Everything that a start reaches is found, and nothing else.

A search asks for bodies that have come up, in any order. It never asks for more of them than the
declarations have room for. So the breadth-first search is not cut short, and it ends with the rules
that can be reached, in order of first mention.
-/

set_option autoImplicit false

namespace Descent

namespace Declarations

def Mentions (declarations : Declarations) (outer inner : NonTerminal) : Prop :=
  ∃ definition, declarations.Has outer (.known definition) ∧ inner ∈ definition.nonTerminals

abbrev Reaches (declarations : Declarations) : NonTerminal → NonTerminal → Prop :=
  Relation.ReflTransGen declarations.Mentions

/-- The nonterminal is reached from the start in so many mentions, or in fewer. -/
inductive Within (declarations : Declarations) (start : NonTerminal) : Nat → NonTerminal → Prop where
  | start (count : Nat) : Within declarations start count start
  | mention {count : Nat} {outer inner : NonTerminal} (near : Within declarations start count outer)
      (mentioned : declarations.Mentions outer inner) : Within declarations start (count + 1) inner

theorem Within.reaches {declarations : Declarations} {start symbol : NonTerminal} {count : Nat}
    (near : declarations.Within start count symbol) : declarations.Reaches start symbol := by
  induction near with
  | start => exact .refl
  | mention _ mentioned ih => exact ih.tail mentioned

theorem Course.reaches {before after : Declarations} {groups : Nat} {symbols : List NonTerminal}
    (course : Course groups symbols before after) {start symbol : NonTerminal}
    (reached : before.Reaches start symbol) : after.Reaches start symbol :=
  Relation.ReflTransGen.mono (fun _ _ ⟨definition, has, mentioned⟩ =>
    ⟨definition, course.stays has, mentioned⟩) _ _ reached

end Declarations

namespace Evaluation

open Declarations

def mentions (start : NonTerminal) (rules : List Definition) : List NonTerminal :=
  start :: rules.flatMap Definition.nonTerminals

structure Due (start : NonTerminal) (found : List Definition) (symbol : NonTerminal) : Prop where
  mentioned : symbol ∈ mentions start found
  new : symbol ∉ found.map Definition.head

theorem mem_unvisited {symbol : NonTerminal} {found : List Definition} {queue : List NonTerminal} :
    symbol ∈ Frontier.unvisited found queue ↔
      symbol ∈ queue ∧ symbol ∉ found.map Definition.head := by
  unfold Frontier.unvisited
  rw [List.mem_filter, Bool.not_eq_true', List.contains_eq_mem, decide_eq_false_iff_not]

/-- What a search from the start has found, and the declarations that it has come to. It asks for
bodies that have come up, in any order. -/
inductive Searched (asker : Location) (start : NonTerminal) (before : Declarations) :
    List Definition → Declarations → Prop where
  | none : Searched asker start before [] before
  | ask {found : List Definition} {state after : Declarations} {symbol : NonTerminal}
      {definition : Definition} (searched : Searched asker start before found state)
      (due : Due start found symbol)
      (run : (definitionOf asker symbol).run state = .ok (definition, after)) :
      Searched asker start before (found ++ [definition]) after

/-- Every body that can be reached comes to a definition, in whichever order they are asked for. -/
def Evaluates (asker : Location) (start : NonTerminal) (before : Declarations) : Prop :=
  ∀ found state, Searched asker start before found state → ∀ symbol, Due start found symbol →
    ∃ result, (definitionOf asker symbol).run state = .ok result

theorem mentions_append (start : NonTerminal) (found more : List Definition) :
    mentions start (found ++ more) =
      mentions start found ++ more.flatMap Definition.nonTerminals := by
  unfold mentions
  rw [List.flatMap_append, List.cons_append]

theorem mentions_concat (start : NonTerminal) (found : List Definition) (definition : Definition) :
    mentions start (found ++ [definition]) = mentions start found ++ definition.nonTerminals := by
  rw [mentions_append, List.flatMap_singleton]

/-- A search that never has a choice: one body is due at a time, and it comes to a definition. -/
inductive Straight (asker : Location) (start : NonTerminal) : List Definition → Declarations → Prop where
  | done {found : List Definition} {state : Declarations}
      (nothing : Frontier.unvisited found (mentions start found) = []) :
      Straight asker start found state
  | next {found : List Definition} {state after : Declarations} {symbol : NonTerminal}
      {definition : Definition} (one : Frontier.unvisited found (mentions start found) = [symbol])
      (run : (definitionOf asker symbol).run state = .ok (definition, after))
      (rest : Straight asker start (found ++ [definition]) after) : Straight asker start found state

theorem Straight.ask {asker : Location} {start symbol : NonTerminal} {found : List Definition}
    {state : Declarations} (straight : Straight asker start found state)
    (due : Due start found symbol) :
    ∃ definition after, (definitionOf asker symbol).run state = .ok (definition, after) ∧
      Straight asker start (found ++ [definition]) after := by
  have ahead := mem_unvisited.mpr ⟨due.mentioned, due.new⟩
  cases straight with
  | done nothing =>
    rw [nothing] at ahead
    cases ahead
  | next one run rest =>
    rw [one] at ahead
    cases List.mem_singleton.mp ahead
    exact ⟨_, _, run, rest⟩

theorem Straight.evaluates {asker : Location} {start : NonTerminal} {before : Declarations}
    (straight : Straight asker start [] before) : Evaluates asker start before := by
  intro found state searched symbol due
  have onward : Straight asker start found state := by
    clear due
    induction searched with
    | none => exact straight
    | ask _ due run ih =>
      obtain ⟨_, _, run', rest⟩ := ih.ask due
      cases run'.symm.trans run
      exact rest
  obtain ⟨_, _, run, _⟩ := onward.ask due
  exact ⟨_, run⟩

structure Searching (start : NonTerminal) (before : Declarations) (found : List Definition)
    (state : Declarations) : Prop where
  sound : state.Sound
  capacity : state.capacity ≤ before.capacity
  declares : state.Holds (mentions start found)
  known : ∀ rule ∈ found, state.Has rule.head (.known rule)
  reached : ∀ rule ∈ found, state.Reaches start rule.head
  distinct : (found.map Definition.head).Nodup

section Search

variable {asker : Location} {start : NonTerminal} {before state : Declarations}
  {found : List Definition}

theorem Searching.reaches (searching : Searching start before found state) {symbol : NonTerminal}
    (mentioned : symbol ∈ mentions start found) : state.Reaches start symbol := by
  rcases List.mem_cons.mp mentioned with rfl | mentioned
  · exact .refl
  · obtain ⟨rule, member, within⟩ := List.mem_flatMap.mp mentioned
    exact (searching.reached rule member).tail ⟨rule, searching.known rule member, within⟩

theorem Searched.searching (searched : Searched asker start before found state)
    (sound : before.Sound) (declared : before.Declares start) : Searching start before found state := by
  induction searched with
  | none =>
    refine ⟨sound, Nat.le_refl _, fun symbol mentioned => ?_, nofun, nofun, List.nodup_nil⟩
    cases List.mem_singleton.mp mentioned
    exact declared
  | @ask found state after symbol definition searched due run ih =>
    obtain ⟨course, known⟩ := definitionOf_course ih.sound.toRooted (ih.declares symbol due.mentioned) run
    have later := course.sound ih.sound
    obtain ⟨head, holds⟩ := later.bodies symbol _ known
    subst head
    refine ⟨later, Nat.le_trans course.capacity ih.capacity, ?_, ?_, ?_, ?_⟩
    · rw [mentions_concat]
      intro other mentioned
      rcases List.mem_append.mp mentioned with early | late
      · exact course.declares (ih.declares other early)
      · exact holds other late
    · intro rule member
      rcases List.mem_append.mp member with early | here
      · exact course.stays (ih.known rule early)
      · cases List.mem_singleton.mp here
        exact known
    · intro rule member
      rcases List.mem_append.mp member with early | here
      · exact course.reaches (ih.reached rule early)
      · cases List.mem_singleton.mp here
        exact course.reaches (ih.reaches due.mentioned)
    · rw [List.map_append, List.map_singleton]
      exact List.nodup_append.mpr ⟨ih.distinct, List.nodup_singleton _, fun other old _ here same =>
        due.new (by rw [← List.mem_singleton.mp here, ← same]; exact old)⟩

theorem Searched.owned (searched : Searched asker start before found state)
    (sound : before.Sound) (declared : before.Declares start) {symbol : NonTerminal}
    {definition : Definition} {after : Declarations} (due : Due start found symbol)
    (run : (definitionOf asker symbol).run state = .ok (definition, after)) :
    definition.head = symbol := by
  have searching := searched.searching sound declared
  obtain ⟨course, known⟩ := definitionOf_course searching.sound.toRooted
    (searching.declares symbol due.mentioned) run
  exact ((course.sound searching.sound).bodies symbol _ known).1

/-- Nonterminals have serial numbers of their own, so that no more of them are found than there are
entries. -/
theorem Searching.length_le (searching : Searching start before found state) :
    found.length ≤ before.capacity := by
  have serials : (found.map fun rule => rule.head.serial).Nodup := by
    rw [show (fun rule : Definition => rule.head.serial) = NonTerminal.serial ∘ Definition.head from rfl,
      ← List.map_map]
    refine (List.nodup_map_iff_inj_on searching.distinct).mpr fun first one second other same => ?_
    obtain ⟨rule, member, rfl⟩ := List.mem_map.mp one
    obtain ⟨rule', member', rfl⟩ := List.mem_map.mp other
    exact Declares.eq ⟨_, searching.known rule member⟩ ⟨_, searching.known rule' member'⟩ same
  have inside : (found.map fun rule => rule.head.serial) ⊆ List.range state.declared.length := by
    intro serial member
    obtain ⟨rule, among, rfl⟩ := List.mem_map.mp member
    exact List.mem_range.mpr (List.getElem?_eq_some_iff.mp (searching.known rule among)).1
  have few := (List.subperm_of_subset serials inside).length_le
  rw [List.length_map, List.length_range] at few
  exact Nat.le_trans (Nat.le_trans few state.length_le_capacity) searching.capacity

end Search

section Order

variable {start next : NonTerminal} {found : List Definition} {queue rest : List NonTerminal}

/-- What is behind and what is ahead are the nonterminals that have come up, in the order in which
they first did. -/
def Ordered (start : NonTerminal) (found : List Definition) (queue : List NonTerminal) : Prop :=
  found.map Definition.head ++ (Frontier.unvisited found queue).eraseDups =
    (mentions start found).eraseDups

theorem ordered_initial (start : NonTerminal) : Ordered start [] [start] := rfl

theorem Ordered.due (ordered : Ordered start found queue)
    (ahead : Frontier.unvisited found queue = next :: rest) : Due start found next := by
  refine ⟨?_, (mem_unvisited.mp (ahead ▸ List.mem_cons_self)).2⟩
  rw [← List.mem_eraseDups, ← ordered, ahead]
  exact List.mem_append_right _ (List.mem_eraseDups.mpr List.mem_cons_self)

theorem Ordered.visit (ordered : Ordered start found queue)
    (ahead : Frontier.unvisited found queue = next :: rest) {definition : Definition}
    (owned : definition.head = next) :
    Ordered start (found ++ [definition]) (rest ++ definition.nonTerminals) := by
  have new : ∀ symbol ∈ next :: rest, symbol ∉ found.map Definition.head :=
    fun symbol member => (mem_unvisited.mp (ahead ▸ member)).2
  have later : Frontier.unvisited (found ++ [definition]) rest =
      rest.filter fun symbol => !(symbol == next) := by
    refine List.filter_congr fun symbol member => ?_
    simp [owned, new symbol (List.mem_cons_of_mem _ member), beq_eq_decide]
  have seen : ∀ symbol, symbol ∈ mentions start found ↔
      symbol ∈ found.map Definition.head ∨ symbol = next ∨ symbol ∈ rest := fun symbol => by
    rw [← List.mem_eraseDups, ← ordered, ahead, List.mem_append, List.mem_eraseDups, List.mem_cons]
  -- What the definition adds is what neither lies behind nor is ahead already.
  have added : (Frontier.unvisited (found ++ [definition]) definition.nonTerminals).removeAll
      (rest.filter fun symbol => !(symbol == next)) =
        definition.nonTerminals.removeAll (mentions start found) := by
    unfold List.removeAll Frontier.unvisited
    rw [List.filter_filter]
    refine List.filter_congr fun symbol _ => ?_
    rw [Bool.eq_iff_iff]
    simp only [List.elem_eq_contains, Bool.and_eq_true, Bool.not_eq_true', List.contains_eq_mem,
      decide_eq_false_iff_not, List.map_append, List.map_singleton, owned, List.mem_append,
      List.mem_singleton, List.mem_filter, beq_eq_false_iff_ne, seen]
    tauto
  calc (found ++ [definition]).map Definition.head ++
        (Frontier.unvisited (found ++ [definition]) (rest ++ definition.nonTerminals)).eraseDups
      = found.map Definition.head ++ (next :: rest).eraseDups ++
          (definition.nonTerminals.removeAll (mentions start found)).eraseDups := by
        unfold Frontier.unvisited at later added ⊢
        rw [List.filter_append, List.eraseDups_append, later, added, List.map_append,
          List.map_singleton, owned, List.eraseDups_cons]
        simp only [List.append_assoc, List.cons_append, List.nil_append]
    _ = (mentions start (found ++ [definition])).eraseDups := by
        rw [mentions_concat, List.eraseDups_append, ← ahead, ordered]

end Order

section Explore

variable {asker : Location} {start : NonTerminal} {before state : Declarations}
  {found : List Definition} {queue : List NonTerminal}

/-- The breadth-first search is a search, and is not cut short. -/
theorem exploreFrom_ok (sound : before.Sound) (declared : before.Declares start)
    (evaluates : Evaluates asker start before) {limit : Nat} (frontier : Frontier start found queue)
    (searched : Searched asker start before found state) (ordered : Ordered start found queue)
    (room : before.capacity < limit + found.length) :
    ∃ territory after, (exploreFrom asker limit found queue frontier).run state =
        .ok (territory, after) ∧
      Searched asker start before territory.rules after ∧
      territory.rules.map Definition.head = (mentions start territory.rules).eraseDups := by
  induction limit generalizing found queue state with
  | zero =>
    have few := (searched.searching sound declared).length_le
    omega
  | succ limit ih =>
    unfold exploreFrom
    split
    · rename_i ahead
      refine ⟨_, _, rfl, searched, ?_⟩
      unfold Ordered at ordered
      rw [ahead, List.eraseDups_nil, List.append_nil] at ordered
      exact ordered
    · rename_i next rest ahead
      have due := ordered.due ahead
      obtain ⟨⟨definition, after⟩, run⟩ := evaluates found state searched next due
      have owned := searched.owned sound declared due run
      obtain ⟨territory, last, ended, complete⟩ := ih (frontier.visit ahead owned)
        (searched.ask due run) (ordered.visit ahead owned)
        (by rw [List.length_append, List.length_singleton]; omega)
      refine ⟨territory, last, ?_, complete⟩
      rw [StateT.run_bind, run]
      show StateT.run (dite (definition.head = next) _ _) after = _
      rw [dif_pos owned]
      exact ended

theorem explore_ok (sound : before.Sound) (declared : before.Declares start)
    (evaluates : Evaluates asker start before) :
    ∃ territory after, (explore asker start).run before = .ok (territory, after) ∧
      Searched asker start before territory.rules after ∧
      territory.rules.map Definition.head = (mentions start territory.rules).eraseDups :=
  exploreFrom_ok sound declared evaluates (.initial start) .none (ordered_initial start)
    (Nat.lt_succ_self _)

end Explore

/-- The rules are those of everything that the start reaches, the start first and nothing before what
is nearer to it. -/
structure Gathered (start : NonTerminal) (rules : List Definition) (after : Declarations) : Prop where
  bodies : ∀ rule ∈ rules, after.Has rule.head (.known rule)
  reached : ∀ symbol, symbol ∈ rules.map Definition.head ↔ after.Reaches start symbol
  distinct : (rules.map Definition.head).Nodup
  order : rules.map Definition.head = (mentions start rules).eraseDups
  nearest : ∀ front symbol back, rules.map Definition.head = front ++ symbol :: back →
    ∀ earlier ∈ front, ∀ count, after.Within start count symbol → after.Within start count earlier

section Gathered

variable {start : NonTerminal} {rules : List Definition} {before after : Declarations}

theorem mem_of_split {list front whole rest : List NonTerminal} {symbol earlier : NonTerminal}
    {back : List NonTerminal} (distinct : list.Nodup) (split : list = front ++ symbol :: back)
    (begins : list = whole ++ rest) (inside : symbol ∈ whole) (before : earlier ∈ front) :
    earlier ∈ whole := by
  rcases List.append_eq_append_iff.mp (split.symm.trans begins) with ⟨more, same, _⟩ | ⟨more, _, same⟩
  · rw [same]
    exact List.mem_append_left _ before
  · rw [begins] at distinct
    refine absurd rfl ((List.nodup_append.mp distinct).2.2 symbol inside symbol ?_)
    rw [same]
    exact List.mem_append_right _ List.mem_cons_self

/-- No rule comes before one that is nearer to the start. -/
theorem within_of_earlier (bodies : ∀ rule ∈ rules, after.Has rule.head (.known rule))
    (reached : ∀ symbol, after.Reaches start symbol → symbol ∈ rules.map Definition.head)
    (distinct : (rules.map Definition.head).Nodup)
    (order : rules.map Definition.head = (mentions start rules).eraseDups) {count : Nat}
    {front back : List NonTerminal} {symbol earlier : NonTerminal}
    (split : rules.map Definition.head = front ++ symbol :: back) (before : earlier ∈ front)
    (near : after.Within start count symbol) : after.Within start count earlier := by
  -- What the symbol is mentioned by comes before it, and what is mentioned before it is so by that or
  -- by something before that.
  induction near generalizing front back earlier with
  | start count =>
    have begins : rules.map Definition.head = [start] ++ _ :=
      order.trans (List.eraseDups_cons)
    cases List.mem_singleton.mp
      (mem_of_split distinct split begins (List.mem_singleton_self start) before)
    exact .start count
  | @mention count outer symbol near mentioned ih =>
    obtain ⟨definition, known, within⟩ := mentioned
    obtain ⟨rule, member, rfl⟩ := List.mem_map.mp (reached outer near.reaches)
    obtain rfl : rule = definition := Body.known.inj (known.unique (bodies rule member))
    obtain ⟨early, late, divided⟩ := List.append_of_mem member
    have begins : rules.map Definition.head = (mentions start (early ++ [rule])).eraseDups ++
        ((late.flatMap Definition.nonTerminals).removeAll
          (mentions start (early ++ [rule]))).eraseDups := by
      rw [order, divided, List.append_cons, mentions_append, List.eraseDups_append]
    have inside : symbol ∈ (mentions start (early ++ [rule])).eraseDups := by
      rw [List.mem_eraseDups, mentions_concat]
      exact List.mem_append_right _ within
    have among := List.mem_eraseDups.mp (mem_of_split distinct split begins inside before)
    rcases List.mem_cons.mp among with rfl | among
    · exact .start _
    · obtain ⟨parent, listed, mentioned⟩ := List.mem_flatMap.mp among
      refine .mention ?_ ⟨parent, bodies parent ?_, mentioned⟩
      · have halves : rules.map Definition.head =
            early.map Definition.head ++ rule.head :: late.map Definition.head := by
          rw [divided, List.map_append, List.map_cons]
        rcases List.mem_append.mp listed with sooner | here
        · exact ih halves (List.mem_map_of_mem sooner)
        · cases List.mem_singleton.mp here
          exact near
      · rw [divided, List.append_cons]
        exact List.mem_append_left _ listed

/-- The breadth-first search gathers what the start reaches. -/
theorem explore_gathers {asker : Location} (sound : before.Sound) (declared : before.Declares start)
    (evaluates : Evaluates asker start before) :
    ∃ territory after, (explore asker start).run before = .ok (territory, after) ∧
      Gathered start territory.rules after := by
  obtain ⟨territory, after, explored, searched, order⟩ := explore_ok sound declared evaluates
  have searching := searched.searching sound declared
  have closed : ∀ symbol, after.Reaches start symbol →
      symbol ∈ territory.rules.map Definition.head := fun symbol reached => by
    induction reached with
    | refl => exact territory.start_mem
    | tail _ mentioned ih =>
      obtain ⟨definition, known, within⟩ := mentioned
      obtain ⟨rule, member, rfl⟩ := List.mem_map.mp ih
      obtain rfl : rule = definition := Body.known.inj (known.unique (searching.known rule member))
      exact territory.closed rule member _ within
  refine ⟨territory, after, explored, searching.known, fun symbol => ⟨fun member => ?_, closed symbol⟩,
    searching.distinct, order, fun front symbol back split earlier among count near =>
      within_of_earlier searching.known closed searching.distinct order split among near⟩
  obtain ⟨rule, listed, rfl⟩ := List.mem_map.mp member
  exact searching.reached rule listed

end Gathered

end Evaluation

end Descent
