import Descent.Declarations

/-! Evaluation of grammar expressions.

The body of a rule is evaluated once, when it is first asked for. The name and the
group count of a body are set aside while another body is evaluated in between.
-/

set_option autoImplicit false

namespace Descent

abbrev Evaluation := StateT Declarations (Except DefinitionError)

namespace Evaluation

def freshStamp : Evaluation Nat :=
  modifyGet fun declarations =>
    (declarations.stamp, { declarations with stamp := declarations.stamp + 1 })

def fresh (rule : Rule) : Evaluation Value := return .rule rule (some (← freshStamp))

/-- A plain text stands for the terminal with that lexeme. -/
def asRule (location : Location) : Value → Except DefinitionError Rule
  | .rule rule _ => .ok rule
  | .plain (.text text) => .ok (.symbol (.terminal (Terminal.of (.lexeme text) none location)))
  | .plain literal => .error (.notARule literal.display)

def combined (join : Rule → List Rule → Rule) (location : Location) (values : List Value) :
    Evaluation Value :=
  match values with
  | [] => throw .noParts
  | [.rule rule stamp] => return .rule rule stamp
  | first :: rest => do
    let first ← asRule location first
    let rest ← rest.mapM fun value => asRule location value
    fresh (join first rest)

/-- An operator between two values. Unless both are plain they are made rules; for two plain
values `plain` says what they make, if anything. -/
def operated (plain : Literal → Literal → Option Literal) (join : Rule → List Rule → Rule)
    (location : Location) (left right : Value) : Evaluation Value :=
  match left, right with
  | .plain left, .plain right =>
    match plain left right with
    | some literal => return .plain literal
    | none => throw .noOperator
  | left, right => combined join location [left, right]

def generated (location : Location) (rule : Rule) : Evaluation NonTerminal :=
  modifyGet fun declarations =>
    let name := "__opt_" ++ declarations.definition ++ "_" ++ toString declarations.groups
    let (symbol, extended) := declarations.extend name location (.built rule)
    (symbol, { extended with groups := declarations.groups + 1 })

/-- One symbol is optional as it is, anything else by way of a generated nonterminal. -/
def optionalGroup (location : Location) (values : List Value) : Evaluation Value := do
  let rules ← values.mapM fun value => asRule location value
  match rules with
  | [] => fresh (.optional none)
  | [.symbol symbol] => fresh (.optional (some symbol))
  | first :: rest =>
    let symbol ← generated location (Rule.sequences first rest)
    fresh (.optional (some (.nonTerminal symbol)))

def optionalValue : Value → Evaluation Value
  | .plain .null => fresh (.optional none)
  | .rule (.symbol symbol) _ => fresh (.optional (some symbol))
  | value => throw (.notASymbol value.debug)

def lookUp (rule : String) : Evaluation NonTerminal := do
  match (← get).handles.lookup rule with
  | some symbol => return symbol
  | none => throw (.undeclared rule)

mutual

/-- Parts are evaluated from left to right before they are combined. `force`
asks for the body of a rule. -/
def evaluate (force : NonTerminal → Evaluation Unit) (location : Location) :
    Expression → Evaluation Value
  | .plain literal => return .plain literal
  | .reference rule => return .rule (.symbol (.nonTerminal (← lookUp rule))) none
  | .shared name => do
    match (← get).shared.lookup name with
    | some value => return value
    | none => throw (.undeclared name)
  | .terminal lexeme kind name =>
    match Criterion.of? lexeme kind with
    | some criterion =>
      return .rule (.symbol (.terminal (Terminal.of criterion name location))) none
    | none => throw .emptyCriterion
  | .sequence parts => do combined Rule.sequences location (← evaluateAll force location parts)
  | .choice parts => do combined Rule.choices location (← evaluateAll force location parts)
  | .group parts => do optionalGroup location (← evaluateAll force location parts)
  | .optional inner => do optionalValue (← evaluate force location inner)
  | .either left right => do
    let left ← evaluate force location left
    let right ← evaluate force location right
    operated (fun _ _ => none) Rule.choices location left right
  | .join first second => do
    let first ← evaluate force location first
    let second ← evaluate force location second
    operated Literal.append? Rule.sequences location first second
  | .nothing => return .rule .nothing none
  | .abstract => fresh .abstract
  | .force rule result => do
    force (← lookUp rule)
    evaluate force location result

def evaluateAll (force : NonTerminal → Evaluation Unit) (location : Location) :
    List Expression → Evaluation (List Value)
  | [] => return []
  | part :: rest => do
    let value ← evaluate force location part
    return value :: (← evaluateAll force location rest)

end

/-- Evaluate a body under the name of its rule, with a group count of its own. -/
def within {α : Type} (name : String) (action : Evaluation α) : Evaluation α := do
  let before ← get
  set { before with definition := name, groups := 0 }
  let result ← action
  modify fun after => { after with definition := before.definition, groups := before.groups }
  return result

def flat (head : NonTerminal) (rule : Rule) : Except DefinitionError Definition :=
  match flattened : rule.flatten? with
  | some productions => .ok ⟨head, productions, Rule.flatten?_ne_nil flattened⟩
  | none => .error .noProductions

/-- The definition of a nonterminal, evaluated if this is the first time it is
asked for. A body that is a plain text becomes a terminal where it was asked
for. `depth` bounds how many bodies may wait for one another. -/
def definitionAt (depth : Nat) (asker : Location) (symbol : NonTerminal) :
    Evaluation Definition := do
  match (← get).body? symbol with
  | none => throw (.undeclared symbol.name)
  | some (.known definition) => return definition
  | some (.built rule) =>
    let definition ← flat symbol rule
    modify (·.setBody symbol (.known definition))
    return definition
  | some (.written expression location) =>
    match depth with
    | 0 => throw .circular
    | depth + 1 =>
      let definition ← within symbol.name do
        let value ← evaluate
          (fun other => do discard (definitionAt depth location other)) location expression
        flat symbol (← asRule asker value)
      modify (·.setBody symbol (.known definition))
      return definition

/-- No more bodies can wait for one another than there are declared rules. -/
def definitionOf (asker : Location) (symbol : NonTerminal) : Evaluation Definition := do
  definitionAt ((← get).declared.length + 1) asker symbol

def value (location : Location) (expression : Expression) : Evaluation Value :=
  evaluate (fun other => do discard (definitionOf location other)) location expression

/-- Declare a rule by its handle. Its name is the handle unless it has one of its own. -/
def declare (handle : String) (name : Literal) (location : Location) (body : Expression) :
    Evaluation Unit := do
  let name ← match name with
    | .null => pure handle
    | .text own => pure (if own = "" then handle else own)
    | _ => throw .nameNotText
  modify fun declarations =>
    let (symbol, extended) := declarations.extend name location (.written body location)
    { extended with handles := (handle, symbol) :: declarations.handles }

def share (name : String) (location : Location) (expression : Expression) : Evaluation Unit := do
  let value ← value location expression
  modify fun declarations => { declarations with shared := (name, value) :: declarations.shared }

end Evaluation

end Descent
