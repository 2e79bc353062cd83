import Mathlib.Data.List.Nodup
import Descent.Grammar

/-! The rules of a grammar by the names of their heads. -/

set_option autoImplicit false

namespace Descent

namespace Grammar

def Knows (grammar : Grammar) (symbol : String) : Prop :=
  ∃ rule ∈ grammar.rules, rule.head.name = symbol

def Lists (grammar : Grammar) (symbol : String) (production : Production) : Prop :=
  ∃ rule ∈ grammar.rules, rule.head.name = symbol ∧ production ∈ rule.productions

variable {grammar : Grammar} {symbol : String}

-- That no two rules have one name is not used here: whichever rule is found, its
-- productions are productions of that nonterminal.
theorem productions?_eq (known : grammar.Knows symbol) :
    ∃ rule ∈ grammar.rules, grammar.productions? symbol = some rule.productions := by
  obtain ⟨rule, member, name⟩ := known
  unfold productions?
  cases found : grammar.rules.find? fun rule => rule.head.name == symbol with
  | some other => exact ⟨other, List.mem_of_find?_eq_some found, rfl⟩
  | none =>
    have absent := List.find?_eq_none.mp found rule member
    simp [name] at absent

theorem productionsOf_ok (known : grammar.Knows symbol) :
    ∃ productions, grammar.productionsOf symbol = .ok productions := by
  obtain ⟨rule, _, found⟩ := productions?_eq known
  unfold productionsOf
  rw [found]
  exact ⟨_, rfl⟩

theorem productionsOf_unknown (unknown : ¬grammar.Knows symbol) :
    grammar.productionsOf symbol = .error (grammar.unknown symbol) := by
  have absent : grammar.productions? symbol = none := by
    unfold productions?
    rw [Option.map_eq_none_iff, List.find?_eq_none]
    intro rule member same
    exact unknown ⟨rule, member, by simpa using same⟩
  unfold productionsOf
  rw [absent]

theorem lists_of_productions? {productions : List Production} {production : Production}
    (found : grammar.productions? symbol = some productions) (listed : production ∈ productions) :
    grammar.Lists symbol production := by
  obtain ⟨rule, first, rfl⟩ := Option.map_eq_some_iff.mp found
  have named := List.find?_some first
  exact ⟨rule, List.mem_of_find?_eq_some first, by simpa using named, listed⟩

/-- No two rules have one name, so that the rule of a name is the one that is found. -/
theorem productions?_of_lists {symbol : String} {production : Production}
    (listed : grammar.Lists symbol production) :
    ∃ productions, grammar.productions? symbol = some productions ∧ production ∈ productions := by
  obtain ⟨rule, member, name, listed⟩ := listed
  refine ⟨rule.productions, ?_, listed⟩
  unfold productions?
  cases found : grammar.rules.find? fun rule => rule.head.name == symbol with
  | none =>
    have absent := List.find?_eq_none.mp found rule member
    simp [name] at absent
  | some other =>
    have same : other = rule := by
      apply List.inj_on_of_nodup_map grammar.names_distinct (List.mem_of_find?_eq_some found) member
      rw [name]
      simpa using List.find?_some found
    rw [same]
    rfl

theorem knows_of_mention {rule : Definition} {production : Production} {element : Element}
    {called : NonTerminal} (member : rule ∈ grammar.rules) (listed : production ∈ rule.productions)
    (within : element ∈ production) (calls : element.symbol? = some (.nonTerminal called)) :
    grammar.Knows called.name := by
  have mentioned : called ∈ rule.nonTerminals := by
    refine List.mem_flatMap.mpr ⟨production, listed, ?_⟩
    refine List.mem_filterMap.mpr ⟨element, within, ?_⟩
    rw [calls]
    rfl
  obtain ⟨other, inRules, head⟩ := List.mem_map.mp (grammar.closed rule member called mentioned)
  exact ⟨other, inRules, congrArg NonTerminal.name head⟩

end Grammar

end Descent
