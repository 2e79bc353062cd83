import Descent.Machine.State

/-! Log records. Each step is reported before it is taken, and each decision of a
backtrack after it is made.
-/

set_option autoImplicit false

namespace Descent

inductive Record where
  | step (symbols : List String) (lexeme : Option String) (production : Option Nat)
      (element : Nat)
  | refused (symbol : String) (cursor : Nat)
  | retried (symbol : String) (production : Nat)
  | abandoned (symbol : String) (cursor : Nat)
  | absent (symbol : String) (origin : Origin)
  deriving DecidableEq, Repr

namespace Record

def logger : Record → String
  | step _ _ _ _ => "pushdown.action"
  | _ => "pushdown.backtrack"

def level : Record → String
  | refused _ _ => "DEBUG"
  | _ => "INFO"

/-- A frame without a production is shown at production minus one. The end of the
tokens is shown as a dollar sign. -/
def message : Record → String
  | step symbols lexeme production element =>
    let shown := match production with
      | none => "-1"
      | some production => toString production
    Text.padRight 30 (Text.bracketed (symbols.map Text.quoted)) ++ " " ++
      Text.padRight 15 (lexeme.getD "$") ++ " " ++ shown ++ ":" ++ toString element
  | refused symbol cursor => symbol ++ " already expanded at " ++ toString cursor
  | retried symbol production => symbol ++ ": trying production " ++ toString production
  | abandoned symbol cursor => symbol ++ ": abandoned at " ++ toString cursor
  | absent symbol origin => symbol ++ ": " ++ origin.text ++ " element absent"

end Record

/-- How an operation ended, the state that it left behind, and what it reported. -/
structure Outcome (α : Type) where
  result : Except Fault α
  after : State
  records : List Record

namespace Outcome

variable {α : Type}

def done (state : State) (value : α) : Outcome α := ⟨.ok value, state, []⟩

def raise (state : State) (fault : Fault) : Outcome α := ⟨.error fault, state, []⟩

def following (outcome : Outcome α) (records : List Record) : Outcome α :=
  { outcome with records := records ++ outcome.records }

end Outcome

end Descent
