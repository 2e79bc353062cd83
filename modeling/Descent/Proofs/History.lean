import Descent.Proofs.Stack.Ending

/-! Everything that can be done to a machine from outside, in any order.

A history has its latest operation first. Operations that break off belong to it, with what
they leave behind. The state does not keep all that a history tells: steps that fail and tokens
that a finished goal leaves over are its setbacks, and a frame that is dropped leaves a marker.
-/

set_option autoImplicit false

namespace Descent

def Outcome.silent {α : Type} (outcome : Outcome α) : Outcome Unit :=
  { outcome with result := outcome.result.map fun _ => () }

/-- Where something went wrong, what was under expansion there, and what would have helped. -/
structure Setback where
  cursor : Nat
  symbols : List String
  expected : List Expectation
  deriving DecidableEq, Repr

namespace Machine

inductive Operation where
  | install (tokens : List Token)
  | pushGoal (symbol : String)
  | push (symbol : String) (origin : Origin)
  | pop
  | drop
  | step
  | backtrack
  | run

def operate (machine : Machine) (state : State) : Operation → Outcome Unit
  | .install tokens => .done (.initial tokens) ()
  | .pushGoal symbol => machine.pushGoal symbol state
  | .push symbol origin => (machine.push symbol origin state).silent
  | .pop => (pop state).silent
  | .drop => (drop state).silent
  | .step => (machine.step state).silent
  | .backtrack => (machine.backtrack state).silent
  | .run => (machine.run state).silent

def after (machine : Machine) : List Operation → State
  | [] => .blank
  | operation :: earlier => (machine.operate (machine.after earlier) operation).after

/-- The markers that no frame has any more. New tokens come with a blank machine. -/
def Operation.leaves (state : State) (dropped : List Marker) : Operation → List Marker
  | .install _ => []
  | .drop => (state.stack.head?.map Frame.marker).toList ++ dropped
  | _ => dropped

/-- The markers of the frames that were dropped since tokens were installed last. -/
def dropped (machine : Machine) : List Operation → List Marker
  | [] => []
  | operation :: earlier =>
    operation.leaves (machine.after earlier) (machine.dropped earlier)

/-- What would have let the frame go on. An optional element is never to blame. -/
def wanted (machine : Machine) (frame : Frame) : List Expectation :=
  match machine.element? frame with
  | none => machine.expectations frame.symbol
  | some (.required (.terminal terminal)) => [.terminal terminal.criterion]
  | some (.required (.nonTerminal symbol)) => machine.expectations symbol.name
  | some (.optional _) => []

/-- The frame with the production that the token predicts, if it has none yet. -/
def informed (machine : Machine) (token : Option Token) (frame : Frame) : Frame :=
  match machine.predicted? (machine.table frame.symbol) token frame with
  | some production => frame.select production
  | none => frame

def stepSetbacks (machine : Machine) (state : State) : List Setback :=
  match state.stack, (machine.step state).result with
  | frame :: _, .ok false =>
    let token := (state.tokens.getD [])[state.cursor]?
    [⟨state.cursor, state.symbols, machine.wanted (machine.informed token frame)⟩]
  | _, _ => []

def loopSetbacks (machine : Machine) (state : State) : List Setback :=
  if state.stack.isEmpty then []
  else
    match outcome : machine.round state with
    | ⟨.ok true, after, _⟩ =>
      have : machine.Eases state after := by
        have eased := machine.eases_of_round state (by rw [outcome])
        rwa [outcome] at eased
      machine.loopSetbacks after ++ machine.stepSetbacks state
    | _ => machine.stepSetbacks state
termination_by (remaining state, machine.burden state)
decreasing_by assumption

/-- A goal that was derived is set back by tokens that are left. -/
def leftovers (tokens : List Token) (state : State) : List Setback :=
  match state.result with
  | some tree =>
    if state.cursor < tokens.length then [⟨state.cursor, [tree.name], [.endOfInput]⟩] else []
  | none => []

def runSetbacks (machine : Machine) (state : State) : List Setback :=
  match state.tokens, machine.ending state with
  | none, _ => []
  | some tokens, (.ok (), after) => leftovers tokens after ++ machine.loopSetbacks state
  | some _, (.error _, _) => machine.loopSetbacks state

def Operation.setbacks (machine : Machine) (state : State) : Operation → List Setback
  | .step => machine.stepSetbacks state
  | .run => machine.runSetbacks state
  | _ => []

/-- The setbacks since tokens were installed last, the latest first. -/
def setbacks (machine : Machine) : List Operation → List Setback
  | [] => []
  | .install _ :: _ => []
  | operation :: earlier =>
    operation.setbacks machine (machine.after earlier) ++ machine.setbacks earlier

section Setbacks

variable {machine : Machine} {state : State}

theorem setbacks_cons {operation : Operation} (resumes : ∀ tokens, operation ≠ .install tokens)
    {earlier : List Operation} :
    machine.setbacks (operation :: earlier) =
      operation.setbacks machine (machine.after earlier) ++ machine.setbacks earlier := by
  cases operation with
  | install tokens => exact absurd rfl (resumes tokens)
  | _ => rfl

theorem stepSetbacks_eq_nil (goes : (machine.step state).result ≠ .ok false) :
    machine.stepSetbacks state = [] := by
  unfold stepSetbacks
  split
  · rename_i fails
    exact absurd fails goes
  · rfl

theorem loopSetbacks_empty (stack : state.stack = []) : machine.loopSetbacks state = [] := by
  rw [loopSetbacks, if_pos (by rw [stack]; rfl)]

theorem loopSetbacks_round (filled : state.stack ≠ []) :
    machine.loopSetbacks state =
      match (machine.round state).result with
      | .ok true => machine.loopSetbacks (machine.round state).after ++ machine.stepSetbacks state
      | _ => machine.stepSetbacks state := by
  rw [loopSetbacks, if_neg (by simpa using filled)]
  split
  · rename_i found
    simp only [found]
  · rename_i other
    split
    · rename_i went
      exact absurd (show machine.round state = ⟨.ok true, _, _⟩ by rw [← went]) (other _ _)
    · rfl

end Setbacks

end Machine

end Descent
