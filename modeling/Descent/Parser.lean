import Descent.Machine.Run

/-! The parser: one run of the machine from the start rule, with its answer put
into words. A parse that fails has exactly one message, about the furthest place
that the machine reached.
-/

set_option autoImplicit false

namespace Descent

structure Parse where
  tree : Option Tree
  errors : List String
  deriving Repr

namespace Parse

def success (tree : Option Tree) : Parse := ⟨tree, []⟩

def failed (message : String) : Parse := ⟨none, [message]⟩

def place (tokens : List Token) (position : Nat) : String :=
  match tokens[position]? with
  | some token => toString token.line ++ ":" ++ toString token.column
  | none =>
    match tokens.getLast? with
    | some token =>
      toString token.line ++ ":" ++ toString (token.column + (token.lexeme.length : Int))
    | none => "1:1"

def unexpected (tokens : List Token) (position : Nat) : String :=
  match tokens[position]? with
  | some token => "Syntax Error: Unexpected '" ++ token.lexeme ++ "'"
  | none => "Syntax Error: Unexpected end of file"

/-- A failure after the goal was derived is about what is left over, any other about
what would have let the innermost frame go on. -/
def failureMessage (tokens : List Token) (result : Option Tree) (failure : Failure) : String :=
  place tokens failure.position ++ ": " ++ unexpected tokens failure.position ++
    if result.isSome then ". Expected end of input"
    else " while parsing " ++ failure.symbols.getLastD "" ++ ". Expected one of: " ++
      ", ".intercalate failure.expectedTexts

def depthMessage (tokens : List Token) (exceeded : DepthExceeded) : String :=
  place tokens exceeded.cursor ++ ": Critical parsing error: " ++ exceeded.message

end Parse

structure Parser where
  grammar : Grammar
  maxDepth : Int

namespace Parser

def ofGrammar (grammar : Grammar) : Parser := ⟨grammar, Machine.defaultDepth⟩

def finish (machine : Machine) (tokens : List Token) : Outcome Bool :=
  let goal := machine.pushGoal machine.grammar.start.name (.initial tokens)
  match goal.result with
  | .ok () => machine.run goal.after
  | .error fault => { goal with result := .error fault }

/-- A bad depth is a fault of the call. The machine itself gives up only when the
derivation grows too deep, and that is an answer. -/
def parse (parser : Parser) (tokens : List Token) : Except Fault Parse := do
  let machine ← Machine.create parser.grammar parser.maxDepth
  let outcome := finish machine tokens
  match outcome.result with
  | .ok true => return .success outcome.after.result
  | .ok false =>
    match outcome.after.failure with
    | some failure =>
      return .failed (Parse.failureMessage tokens outcome.after.result failure)
    | none => return ⟨none, []⟩
  | .error (.depthExceeded exceeded) => return .failed (Parse.depthMessage tokens exceeded)
  | .error fault => throw fault

end Parser

end Descent
