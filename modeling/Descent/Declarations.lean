import Descent.Definition
import Descent.Expression

/-! Declared rules, and what their expressions have come to so far.

Optional groups generate nonterminals. A generated name carries the rule whose
body is being evaluated and the number of groups that this body made before.
-/

set_option autoImplicit false

namespace Descent

/-- The value of an expression. The stamp tells rules apart that were built
separately; symbols and nothing need none. -/
inductive Value where
  | plain (literal : Literal)
  | rule (rule : Rule) (stamp : Option Nat)
  deriving Repr

namespace Value

def debug : Value → String
  | plain literal => literal.display
  | rule built _ => built.debug

/-- Terminals are equal by criterion, nonterminals and nothing by what they are,
other rules only when they were built at once. -/
def same : Value → Value → Bool
  | plain a, plain b => a.same b
  | rule (.symbol (.terminal a)) _, rule (.symbol (.terminal b)) _ => a.same b
  | rule (.symbol (.nonTerminal a)) _, rule (.symbol (.nonTerminal b)) _ => a == b
  | rule .nothing _, rule .nothing _ => true
  | rule _ (some a), rule _ (some b) => a == b
  | _, _ => false

end Value

/-- What is known of the body of a nonterminal: its text, the rule that a group
stands for, or its definition once it has been asked for. -/
inductive Body where
  | written (expression : Expression) (location : Location)
  | built (rule : Rule)
  | known (definition : Definition)

structure Declared where
  symbol : NonTerminal
  body : Body

/-- `declared` is indexed by serial numbers; `shared` has the latest value first. -/
structure Declarations where
  declared : List Declared
  handles : List (String × NonTerminal)
  shared : List (String × Value)
  definition : String
  groups : Nat
  stamp : Nat

namespace Declarations

/-- Outside all rules, generated names carry `__global`. -/
def empty : Declarations := ⟨[], [], [], "__global", 0, 0⟩

def body? (declarations : Declarations) (symbol : NonTerminal) : Option Body :=
  declarations.declared[symbol.serial]?.map Declared.body

def setBody (declarations : Declarations) (symbol : NonTerminal) (body : Body) : Declarations :=
  { declarations with declared := declarations.declared.set symbol.serial ⟨symbol, body⟩ }

def extend (declarations : Declarations) (name : String) (location : Location) (body : Body) :
    NonTerminal × Declarations :=
  let symbol := ⟨declarations.declared.length, name, location⟩
  (symbol, { declarations with declared := declarations.declared ++ [⟨symbol, body⟩] })

/-- A bound on the nonterminals that can come to exist. -/
def capacity (declarations : Declarations) : Nat :=
  declarations.declared.foldr (fun entry total =>
    match entry.body with
    | .written expression _ => expression.groups + 1 + total
    | _ => 1 + total) 0

end Declarations

end Descent
