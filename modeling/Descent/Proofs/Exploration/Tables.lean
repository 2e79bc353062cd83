import Mathlib
import Descent.Proofs.Exploration.Search
import Descent.Proofs.Opening.Productions

/-! The tables of a grammar, and the names in them.

Of terminals with equal criteria the first stays. A name that two nonterminals have, or two of the
terminals that stay, is in the way of a grammar, and nothing else is.
-/

set_option autoImplicit false

namespace Descent

namespace TerminalSet

def First (terminals : List Terminal) (terminal : Terminal) : Prop :=
  terminals.find? (fun other => other.criterion == terminal.criterion) = some terminal

section Lists

variable {terminals : List Terminal} {terminal : Terminal}

theorem ofList_concat (terminals : List Terminal) (terminal : Terminal) :
    ofList (terminals ++ [terminal]) = (ofList terminals).insert terminal := by
  unfold ofList
  rw [List.foldl_concat]

theorem criteria_ofList (terminals : List Terminal) :
    (ofList terminals).criteria = (terminals.map Terminal.criterion).eraseDups := by
  induction terminals using List.reverseRecOn with
  | nil => rfl
  | append_singleton terminals terminal ih =>
    rw [ofList_concat, List.map_append, List.map_singleton, List.eraseDups_append, ← ih]
    have same : terminal.criterion ∈ (ofList terminals).criteria ↔
        terminal.criterion ∈ terminals.map Terminal.criterion := by
      rw [ih, List.mem_eraseDups]
    unfold insert
    split
    · rename_i old
      have removed : [terminal.criterion].removeAll (terminals.map Terminal.criterion) = [] := by
        simpa [List.removeAll] using same.mp old
      rw [removed, List.eraseDups_nil, List.append_nil]
    · rename_i new
      have kept : [terminal.criterion].removeAll (terminals.map Terminal.criterion) =
          [terminal.criterion] := by
        simpa [List.removeAll] using fun member => new (same.mpr member)
      rw [kept]
      simp [criteria, List.eraseDups_cons]

theorem mem_ofList : terminal ∈ (ofList terminals).toList ↔ First terminals terminal := by
  induction terminals using List.reverseRecOn with
  | nil => simp [ofList, empty, First]
  | append_singleton terminals last ih =>
    have old : last.criterion ∈ (ofList terminals).criteria ↔
        ∃ other ∈ terminals, other.criterion = last.criterion := by
      rw [criteria_ofList, List.mem_eraseDups, List.mem_map]
    have insert : terminal ∈ ((ofList terminals).insert last).toList ↔
        terminal ∈ (ofList terminals).toList ∨
          last.criterion ∉ (ofList terminals).criteria ∧ terminal = last := by
      unfold insert
      split
      · rename_i stays
        exact (or_iff_left fun added => added.1 stays).symm
      · rename_i new
        rw [List.mem_append, List.mem_singleton, and_iff_right new]
    unfold First at ih ⊢
    rw [ofList_concat, insert, ih, old, List.find?_append]
    cases found : terminals.find? fun other => other.criterion == terminal.criterion with
    | some other =>
      have same := List.find?_some found
      refine or_iff_left ?_
      rintro ⟨new, rfl⟩
      exact new ⟨other, List.mem_of_find?_eq_some found, by simpa using same⟩
    | none =>
      have absent := List.find?_eq_none.mp found
      rw [Option.none_or, List.find?_singleton]
      by_cases same : last.criterion = terminal.criterion
      · have new : ¬∃ other ∈ terminals, other.criterion = last.criterion := by
          rintro ⟨other, member, equal⟩
          exact absent other member (by simp [equal, same])
        rw [if_pos (beq_iff_eq.mpr same), and_iff_right new]
        simp [eq_comm]
      · have apart : terminal ≠ last := fun equal => same (congrArg Terminal.criterion equal.symm)
        simp [same, apart]

end Lists

end TerminalSet

section Clashes

variable {seen entries : List (String × Location)}

theorem firstClash?.go_eq_none (apart : ((seen ++ entries).map Prod.fst).Nodup) :
    firstClash?.go seen entries = none := by
  induction entries generalizing seen with
  | nil => rfl
  | cons entry rest ih =>
    obtain ⟨name, location⟩ := entry
    have absent : seen.lookup name = none := by
      refine List.lookup_eq_none_iff.mpr fun other member => ?_
      rw [List.map_append, List.map_cons] at apart
      have differs := (List.nodup_append.mp apart).2.2 other.1 (List.mem_map_of_mem member) name
        List.mem_cons_self
      exact bne_iff_ne.mpr differs.symm
    unfold firstClash?.go
    rw [absent]
    exact ih (by simpa using apart)

theorem firstClash?_eq_none {α : Type} {list : List α} {name : α → String}
    {location : α → Location} :
    firstClash? (list.map fun entry => (name entry, location entry)) = none ↔
      (list.map name).Nodup := by
  have names : (list.map fun entry => (name entry, location entry)).map Prod.fst =
      list.map name := by
    rw [List.map_map]
    rfl
  rw [← names]
  exact ⟨nodup_of_firstClash?_eq_none, fun apart => firstClash?.go_eq_none apart⟩

theorem not_nodup_map_iff {α : Type} {list : List α} (distinct : list.Nodup) {name : α → String} :
    ¬(list.map name).Nodup ↔
      ∃ first ∈ list, ∃ second ∈ list, first ≠ second ∧ name first = name second := by
  rw [List.nodup_map_iff_inj_on distinct]
  push Not
  constructor
  · rintro ⟨first, one, second, other, same, apart⟩
    exact ⟨first, one, second, other, apart, same⟩
  · rintro ⟨first, one, second, other, apart, same⟩
    exact ⟨first, one, second, other, same, apart⟩

end Clashes

namespace Grammar

section Territory

variable {start : NonTerminal} {name : String} {territory : Territory start}

/-- A clash of rules is reported before one of terminals, and nothing else stands in the way. -/
theorem ofTerritory_error {error : DefinitionError}
    (failed : ofTerritory name territory = .error error) :
    (¬(territory.rules.map fun rule => rule.head.name).Nodup ∧
        ∃ clash first second, error = .duplicateRule clash first second) ∨
      (territory.rules.map fun rule => rule.head.name).Nodup ∧
        ¬((terminalsOf territory.rules).toList.map Terminal.name).Nodup ∧
        ∃ clash first second, error = .duplicateTerminal clash first second := by
  unfold ofTerritory at failed
  split at failed
  · rename_i clash first second found
    cases failed
    refine .inl ⟨fun apart => ?_, clash, first, second, rfl⟩
    cases found.symm.trans (firstClash?_eq_none.mpr apart)
  · rename_i clean
    split at failed
    · rename_i clash first second found
      cases failed
      refine .inr ⟨firstClash?_eq_none.mp clean, fun apart => ?_, clash, first, second, rfl⟩
      cases found.symm.trans (firstClash?_eq_none.mpr apart)
    · cases failed

theorem ofTerritory_ok {grammar : Grammar} (built : ofTerritory name territory = .ok grammar) :
    grammar.start = start ∧ grammar.rules = territory.rules ∧
      (territory.rules.map fun rule => rule.head.name).Nodup ∧
      ((terminalsOf territory.rules).toList.map Terminal.name).Nodup := by
  unfold ofTerritory at built
  split at built
  · cases built
  · rename_i clean
    split at built
    · cases built
    · rename_i clean'
      cases built
      exact ⟨rfl, rfl, firstClash?_eq_none.mp clean, firstClash?_eq_none.mp clean'⟩

end Territory

/-- Two nonterminals that the start reaches share a name. -/
def RulesClash (start : NonTerminal) (after : Declarations) : Prop :=
  ∃ first second, after.Reaches start first ∧ after.Reaches start second ∧ first ≠ second ∧
    first.name = second.name

/-- Two terminals of some rules share a name, where of equal ones only the first has a say. -/
def TerminalsClash (rules : List Definition) : Prop :=
  ∃ first second, TerminalSet.First (rules.flatMap Definition.terminals) first ∧
    TerminalSet.First (rules.flatMap Definition.terminals) second ∧
    first.criterion ≠ second.criterion ∧ first.name = second.name

/-- The tables of the grammar are made from the rules, and there is an answer to whatever comes up in
them. -/
structure Tabulates (grammar : Grammar) (start : NonTerminal) (rules : List Definition) : Prop where
  rules_eq : grammar.rules = rules
  start_eq : grammar.start = start
  start_first : grammar.nonTerminals.head? = some start
  mem_terminals : ∀ terminal, terminal ∈ grammar.terminals ↔
    TerminalSet.First (rules.flatMap Definition.terminals) terminal
  criteria : grammar.terminals.map Terminal.criterion =
    ((rules.flatMap Definition.terminals).map Terminal.criterion).eraseDups
  registered : ∀ rule ∈ rules, ∀ symbol ∈ rule.head :: rule.nonTerminals,
    ∃ own, grammar.rules.find? (fun rule => rule.head.name == symbol.name) = some own ∧
      own.head = symbol ∧ grammar.productionsOf symbol.name = .ok own.productions
  answers : ∀ rule ∈ rules, ∀ symbol ∈ rule.head :: rule.nonTerminals,
    (∃ first, grammar.first symbol.name = .ok first) ∧
      (∃ null, grammar.nullable symbol.name = .ok null) ∧
      ∀ token, ∃ could, grammar.couldStartWith symbol.name token = .ok could

section Tables

variable {start : NonTerminal} {rules : List Definition} {after : Declarations}

theorem rulesClash_iff (gathered : Evaluation.Gathered start rules after) :
    ¬(rules.map fun rule => rule.head.name).Nodup ↔ RulesClash start after := by
  have names : (rules.map fun rule => rule.head.name) =
      (rules.map Definition.head).map NonTerminal.name := by
    rw [List.map_map]
    rfl
  rw [names, not_nodup_map_iff gathered.distinct]
  constructor
  · rintro ⟨first, one, second, other, apart, same⟩
    exact ⟨first, second, (gathered.reached first).mp one, (gathered.reached second).mp other, apart,
      same⟩
  · rintro ⟨first, second, one, other, apart, same⟩
    exact ⟨first, (gathered.reached first).mpr one, second, (gathered.reached second).mpr other,
      apart, same⟩

theorem terminalsClash_iff :
    ¬((terminalsOf rules).toList.map Terminal.name).Nodup ↔ TerminalsClash rules := by
  have distinct : (terminalsOf rules).toList.Nodup :=
    .of_map Terminal.criterion (terminalsOf rules).distinct
  rw [not_nodup_map_iff distinct]
  constructor
  · rintro ⟨first, one, second, other, apart, same⟩
    refine ⟨first, second, TerminalSet.mem_ofList.mp one, TerminalSet.mem_ofList.mp other,
      fun equal => apart ?_, same⟩
    exact List.inj_on_of_nodup_map (terminalsOf rules).distinct one other equal
  · rintro ⟨first, second, one, other, apart, same⟩
    exact ⟨first, TerminalSet.mem_ofList.mpr one, second, TerminalSet.mem_ofList.mpr other,
      fun equal => apart (congrArg Terminal.criterion equal), same⟩

theorem find?_eq_of_mem {grammar : Grammar} {rule : Definition} (member : rule ∈ grammar.rules) :
    grammar.rules.find? (fun other => other.head.name == rule.head.name) = some rule := by
  cases found : grammar.rules.find? fun other => other.head.name == rule.head.name with
  | none =>
    have absent := List.find?_eq_none.mp found rule member
    simp at absent
  | some other =>
    have named := List.find?_some found
    exact congrArg some (List.inj_on_of_nodup_map grammar.names_distinct
      (List.mem_of_find?_eq_some found) member (by simpa using named))

theorem tabulates (gathered : Evaluation.Gathered start rules after) {grammar : Grammar}
    (same : grammar.rules = rules) (head : grammar.start = start) :
    grammar.Tabulates start rules := by
  subst same
  have member : ∀ rule ∈ grammar.rules, ∀ symbol ∈ rule.head :: rule.nonTerminals,
      ∃ own ∈ grammar.rules, own.head = symbol := fun rule listed symbol mentioned => by
    rcases List.mem_cons.mp mentioned with rfl | mentioned
    · exact ⟨rule, listed, rfl⟩
    · exact List.mem_map.mp (grammar.closed rule listed symbol mentioned)
  have known : ∀ rule ∈ grammar.rules, ∀ symbol ∈ rule.head :: rule.nonTerminals,
      grammar.Knows symbol.name := fun rule listed symbol mentioned => by
    obtain ⟨own, inside, rfl⟩ := member rule listed symbol mentioned
    exact ⟨own, inside, rfl⟩
  refine ⟨rfl, head, ?_, fun _ => TerminalSet.mem_ofList, TerminalSet.criteria_ofList _,
    fun rule listed symbol mentioned => ?_, fun rule listed symbol mentioned => ?_⟩
  · unfold nonTerminals
    rw [gathered.order]
    unfold Evaluation.mentions
    rw [List.eraseDups_cons]
    rfl
  · obtain ⟨own, inside, rfl⟩ := member rule listed symbol mentioned
    have found := find?_eq_of_mem inside
    refine ⟨own, found, rfl, ?_⟩
    unfold productionsOf productions?
    rw [found]
    rfl
  · have knows := known rule listed symbol mentioned
    exact ⟨⟨_, first_eq_ok.mpr ⟨knows, rfl⟩⟩, ⟨_, nullable_eq_ok.mpr ⟨knows, rfl⟩⟩,
      fun token => ⟨_, couldStartWith_eq_ok.mpr ⟨knows, rfl⟩⟩⟩

end Tables

end Grammar

end Descent
