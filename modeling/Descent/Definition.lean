import Descent.Rule

/-! Definitions of nonterminals, and what can be wrong with those of a grammar. -/

set_option autoImplicit false

namespace Descent

/-- The productions of a nonterminal in the order in which they are tried. -/
structure Definition where
  head : NonTerminal
  productions : List Production
  nonempty : productions ≠ []
  deriving DecidableEq

def Definition.nonTerminals (definition : Definition) : List NonTerminal :=
  definition.productions.flatMap Production.nonTerminals

def Definition.terminals (definition : Definition) : List Terminal :=
  definition.productions.flatMap Production.terminals

/-- Why a grammar cannot be put together. -/
inductive DefinitionError where
  | emptyCriterion
  | notARule (shown : String)
  | notASymbol (shown : String)
  | noParts
  | noOperator
  | noProductions
  | nameNotText
  | startNotNonTerminal (shown : String)
  | duplicateRule (name : String) (first second : Location)
  | duplicateTerminal (name : String) (first second : Location)
  | undeclared (name : String)
  | circular
  deriving DecidableEq, Repr

def DefinitionError.clash (what name : String) (first second : Location) : String :=
  "Found more than one " ++ what ++ " named " ++ name ++ ":\n- " ++ first.display ++
    "\n- " ++ second.display

/-- What an author is told. An error that breaks off the author's own program has no text. -/
def DefinitionError.message? : DefinitionError → Option String
  | emptyCriterion => some "A terminal needs a lexeme, a kind, or both"
  | notARule shown => some ("Cannot use " ++ shown ++ " in a grammar rule")
  | notASymbol shown =>
    some ("Optional can only wrap a terminal or a nonterminal, not " ++ shown)
  | startNotNonTerminal shown => some ("The start rule must be a nonterminal, not " ++ shown)
  | duplicateRule name first second => some (clash "rule" name first second)
  | duplicateTerminal name first second => some (clash "terminal" name first second)
  | noParts | noOperator | noProductions | nameNotText | undeclared _ | circular => none

end Descent
