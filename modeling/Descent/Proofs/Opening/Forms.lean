import Mathlib.Computability.ContextFreeGrammar
import Descent.Proofs.Rules

/-! A grammar read as a context-free one.

An optional symbol is there or it is not, so that a production has one reading for each
choice of its optional symbols. Criteria are the terminals of the context-free grammar,
and names its nonterminals.
-/

set_option autoImplicit false

/-- The symbols of sentential forms, where `Symbol` is taken by those of rules. -/
abbrev SententialSymbol (T N : Type) := Symbol T N

namespace Descent

abbrev Form := List (SententialSymbol Criterion String)

def Symbol.letter : Symbol → SententialSymbol Criterion String
  | .terminal t => .terminal t.criterion
  | .nonTerminal n => .nonterminal n.name

def Production.readings : Production → List Form
  | [] => [[]]
  | .required symbol :: rest => (readings rest).map (symbol.letter :: ·)
  | .optional none :: rest => readings rest
  | .optional (some symbol) :: rest =>
    readings rest ++ (readings rest).map (symbol.letter :: ·)

theorem Production.exists_reading (production : Production) :
    ∃ form, form ∈ production.readings := by
  induction production with
  | nil => exact ⟨[], List.mem_singleton_self _⟩
  | cons element rest ih =>
    obtain ⟨form, reading⟩ := ih
    rcases element with symbol | (_ | symbol)
    · exact ⟨symbol.letter :: form, List.mem_map_of_mem reading⟩
    · exact ⟨form, reading⟩
    · exact ⟨form, List.mem_append_left _ reading⟩

namespace Grammar

-- Reducible, so that names are seen to be the nonterminals of the grammar.
abbrev contextFree (grammar : Grammar) : ContextFreeGrammar Criterion where
  NT := String
  initial := grammar.start.name
  rules := (grammar.rules.flatMap fun rule => rule.productions.flatMap fun production =>
    production.readings.map fun form => ⟨rule.head.name, form⟩).toFinset

variable {grammar : Grammar}

theorem mem_contextFree_rules {rule : ContextFreeRule Criterion String} :
    rule ∈ grammar.contextFree.rules ↔
      ∃ production, grammar.Lists rule.input production ∧ rule.output ∈ production.readings := by
  rw [List.mem_toFinset]
  constructor
  · intro member
    obtain ⟨definition, inRules, inner⟩ := List.mem_flatMap.mp member
    obtain ⟨production, listed, mapped⟩ := List.mem_flatMap.mp inner
    obtain ⟨form, reading, rfl⟩ := List.mem_map.mp mapped
    exact ⟨production, ⟨definition, inRules, rfl, listed⟩, reading⟩
  · rintro ⟨production, ⟨definition, inRules, name, listed⟩, reading⟩
    refine List.mem_flatMap.mpr ⟨definition, inRules, ?_⟩
    refine List.mem_flatMap.mpr ⟨production, listed, ?_⟩
    exact List.mem_map.mpr ⟨rule.output, reading, by rw [name]⟩

theorem derives_reading {symbol : String} {production : Production} {form : Form}
    (listed : grammar.Lists symbol production) (reading : form ∈ production.readings) :
    grammar.contextFree.Derives [.nonterminal symbol] form :=
  ContextFreeGrammar.Produces.single ⟨⟨symbol, form⟩,
    mem_contextFree_rules.mpr ⟨production, listed, reading⟩, .input_output⟩

end Grammar

end Descent
