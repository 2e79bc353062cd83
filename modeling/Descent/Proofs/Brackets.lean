import Descent.Machine

/-! Brackets that may hold brackets: `S` is an opening, an `S` and a closing, or nothing. -/

set_option autoImplicit false

namespace Descent

namespace Brackets

def location : Location := ⟨"brackets", 1⟩

def opening : Terminal := .of (.lexeme "a") none location

def closing : Terminal := .of (.lexeme "b") none location

def symbol : NonTerminal := ⟨0, "S", location⟩

def rules : List Definition :=
  [⟨symbol, [[.required (.terminal opening), .required (.nonTerminal symbol),
    .required (.terminal closing)], []], by decide⟩]

def grammar : Grammar where
  name := "brackets"
  start := symbol
  rules := rules
  openings := OpeningTable.ofRules rules
  start_mem := by decide
  closed := by
    intro rule member called mentioned
    simp only [rules, List.mem_singleton] at member
    subst member
    revert called
    decide
  names_distinct := by decide
  openings_eq := rfl

def machine (depth : Nat) : Machine := ⟨grammar, depth⟩

def tokens (words : List String) : List Token := words.map fun word => ⟨word, "WORD", 1, 1⟩

theorem known (depth : Nat) : ∃ rule ∈ (machine depth).grammar.rules, rule.head.name = "S" :=
  ⟨_, List.mem_cons_self, rfl⟩

end Brackets

end Descent
