/-! Derivation trees over a token list. A node covers the tokens from `start`
up to, not including, `stop`. Its outline has one line per node, two spaces
deeper for each level. -/

set_option autoImplicit false

namespace Descent

inductive Node (Position : Type) where
  | leaf (kind lexeme : String) (start stop : Position)
  | branch (name : String) (start stop : Position) (children : List (Node Position))
  deriving Repr

abbrev Tree := Node Nat

namespace Node

variable {Position : Type}

def name : Node Position → String
  | leaf kind _ _ _ => kind
  | branch name _ _ _ => name

def start : Node Position → Position
  | leaf _ _ start _ => start
  | branch _ start _ _ => start

def stop : Node Position → Position
  | leaf _ _ _ stop => stop
  | branch _ _ stop _ => stop

def children : Node Position → List (Node Position)
  | leaf _ _ _ _ => []
  | branch _ _ _ children => children

variable [ToString Position]

def spanText (start stop : Position) : String :=
  " [" ++ toString start ++ ", " ++ toString stop ++ ")"

def indented (depth : Nat) (text : String) : String :=
  String.ofList (List.replicate (2 * depth) ' ') ++ text

mutual

def outlineAt (depth : Nat) : Node Position → List String
  | leaf kind lexeme start stop =>
    [indented depth (kind ++ ":'" ++ lexeme ++ "'" ++ spanText start stop)]
  | branch name start stop children =>
    indented depth (name ++ spanText start stop) :: outlineAll (depth + 1) children

def outlineAll (depth : Nat) : List (Node Position) → List String
  | [] => []
  | node :: rest => node.outlineAt depth ++ outlineAll depth rest

end

def outline (node : Node Position) : List String := node.outlineAt 0

def outlineText (node : Node Position) : String := "\n".intercalate node.outline

end Node

end Descent
