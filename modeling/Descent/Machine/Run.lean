import Descent.Machine.Progress

/-! Runs: rounds until the stack is empty. A run always ends, since every round
that can go on leaves less to do. It succeeds if the goal was derived and no token
is left.
-/

set_option autoImplicit false

namespace Descent

namespace Machine

/-- Rounds until the stack is empty or an operation breaks off. `earlier` holds the
records so far, the latest first. -/
def exhaust (machine : Machine) (state : State) (earlier : List Record) : Outcome Unit :=
  if state.stack.isEmpty then ⟨.ok (), state, earlier.reverse⟩
  else
    match outcome : machine.round state with
    | ⟨.ok true, after, records⟩ =>
      have : machine.Eases state after := by
        have eased := machine.eases_of_round state (by rw [outcome])
        rwa [outcome] at eased
      machine.exhaust after (records.reverse ++ earlier)
    | ⟨.ok false, after, records⟩ => ⟨.ok (), after, earlier.reverse ++ records⟩
    | ⟨.error fault, after, records⟩ => ⟨.error fault, after, earlier.reverse ++ records⟩
termination_by (remaining state, machine.burden state)
decreasing_by assumption

/-- Tokens that are left over are a failure of the finished goal. -/
def verdict (tokens : List Token) (state : State) : Outcome Bool :=
  match state.result with
  | none => .done state false
  | some tree =>
    if state.cursor < tokens.length then .done (state.fail [tree.name] [.endOfInput]) false
    else .done state true

def run (machine : Machine) (state : State) : Outcome Bool :=
  match state.tokens with
  | none => .raise state .notInitialized
  | some tokens =>
    match machine.exhaust state [] with
    | ⟨.ok (), after, records⟩ => (verdict tokens after).following records
    | ⟨.error fault, after, records⟩ => ⟨.error fault, after, records⟩

/-- One round as it was seen: what the step and the backtrack said, and where the
machine stood then. -/
structure Row where
  stepped : Bool
  backtracked : Option Bool
  cursor : Nat
  stack : List Frame

/-- The rounds that were made, and the fault that ended them, if one did. -/
structure Drive where
  rows : List Row
  fault : Option Fault
  after : State
  records : List Record

def Drive.following (drive : Drive) (row : Row) (records : List Record) : Drive :=
  { drive with rows := row :: drive.rows, records := records ++ drive.records }

/-- At most so many rounds while the stack is not empty. -/
def drive (machine : Machine) : Nat → State → Drive
  | 0, state => ⟨[], none, state, []⟩
  | rounds + 1, state =>
    if state.stack.isEmpty then ⟨[], none, state, []⟩
    else
      match machine.step state with
      | ⟨.error fault, after, records⟩ => ⟨[], some fault, after, records⟩
      | ⟨.ok true, after, records⟩ =>
        (machine.drive rounds after).following ⟨true, none, after.cursor, after.stack⟩ records
      | ⟨.ok false, stuck, records⟩ =>
        match machine.backtrack stuck with
        | ⟨.error fault, after, more⟩ => ⟨[], some fault, after, records ++ more⟩
        | ⟨.ok found, after, more⟩ =>
          let row : Row := ⟨false, some found, after.cursor, after.stack⟩
          if found = true then
            (machine.drive rounds after).following row (records ++ more)
          else ⟨[row], none, after, records ++ more⟩

end Machine

end Descent
