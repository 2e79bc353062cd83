import Descent.Literal

/-! Grammar expressions: what an author writes as the body of a rule.

Names refer to declared rules and to shared values. An expression can also ask
for the body of another rule before it goes on, which fixes the moment at which
that body is evaluated and nothing else.
-/

set_option autoImplicit false

namespace Descent

inductive Expression where
  | plain (literal : Literal)
  | reference (rule : String)
  | shared (name : String)
  | terminal (lexeme kind name : Option String)
  | sequence (parts : List Expression)
  | choice (parts : List Expression)
  | group (parts : List Expression)
  | optional (inner : Expression)
  | either (left right : Expression)
  | join (first second : Expression)
  | nothing
  | abstract
  | force (rule : String) (result : Expression)
  deriving Repr

namespace Expression

mutual

/-- The number of optional groups written in an expression, a bound on the
nonterminals that one evaluation of it generates. -/
def groups : Expression → Nat
  | plain _ | reference _ | shared _ | terminal _ _ _ | nothing | abstract => 0
  | sequence parts | choice parts => groupsOfAll parts
  | group parts => groupsOfAll parts + 1
  | optional inner => inner.groups
  | either left right | join left right => left.groups + right.groups
  | force _ result => result.groups

def groupsOfAll : List Expression → Nat
  | [] => 0
  | part :: rest => part.groups + groupsOfAll rest

end

end Expression

end Descent
