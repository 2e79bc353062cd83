import Mathlib
import Descent.Proofs.Halting

/-! What the machine records, it never reads.

The trace and the failure are written and have no say in what is done next, so that states that
differ only by them go on alike.
-/

set_option autoImplicit false

namespace Descent

def State.bare (state : State) : State := { state with trace := [], failure := none }

theorem State.stack_of_bare {state other : State} (same : other.bare = state.bare) :
    other.stack = state.stack := (congrArg State.stack same : other.bare.stack = _)

theorem State.cursor_of_bare {state other : State} (same : other.bare = state.bare) :
    other.cursor = state.cursor := (congrArg State.cursor same : other.bare.cursor = _)

def Outcome.bare {α : Type} (outcome : Outcome α) : Outcome α :=
  ⟨outcome.result, outcome.after.bare, []⟩

theorem Outcome.bare_eq_bare {α : Type} {outcome other : Outcome α} :
    outcome.bare = other.bare ↔
      outcome.result = other.result ∧ outcome.after.bare = other.after.bare := by
  simp [Outcome.bare]

namespace Machine

def Phase.bare : Phase → Phase
  | .stepping state => .stepping state.bare
  | .backtracking state => .backtracking state.bare
  | .stopped result state => .stopped result state.bare

section Bare

variable {machine : Machine} {state other : State} {frame : Frame} {below : List Frame}

theorem fail_bare (symbols : List String) (expected : List Expectation) :
    (state.fail symbols expected).bare = state.bare := by
  obtain ⟨failure, same⟩ := fail_eq state symbols expected
  rw [same]
  rfl

theorem stuck_bare (state : State) (frame : Frame) (below : List Frame)
    (expected : List Expectation) :
    (stuck state frame below expected).bare = { state.bare with stack := frame :: below } :=
  fail_bare _ _

theorem push_bare (state : State) (symbol : String) (origin : Origin) :
    (machine.push symbol origin state.bare).bare = (machine.push symbol origin state).bare := by
  unfold push
  dsimp only
  rw [apply_ite Outcome.bare, apply_ite Outcome.bare, apply_ite Outcome.bare,
    apply_ite Outcome.bare]
  rfl

theorem complete_bare :
    (complete state.bare frame below).bare = (complete state frame below).bare := by
  unfold complete
  dsimp only
  rw [apply_ite Outcome.bare, apply_ite Outcome.bare]
  cases below <;> rfl

theorem perform_bare (move : Move) :
    (machine.perform state.bare frame below move).bare =
      (machine.perform state frame below move).bare := by
  have pushed (symbol : String) (origin : Origin) (slot : Frame) :
      (machine.push symbol origin { state.bare with stack := slot :: below }).bare =
        (machine.push symbol origin { state with stack := slot :: below }).bare :=
    push_bare { state with stack := slot :: below } symbol origin
  cases move with
  | complete => exact complete_bare
  | shift | leave => rfl
  | stuck expected =>
    show Outcome.mk (.ok false) (stuck state.bare frame below expected).bare [] =
      ⟨.ok false, (stuck state frame below expected).bare, []⟩
    rw [stuck_bare, stuck_bare]
    rfl
  | enter symbol origin =>
    have same := pushed symbol origin { frame with progressed := none }
    obtain ⟨answer, left⟩ := Outcome.bare_eq_bare.mp same
    unfold perform
    dsimp only
    rw [answer]
    split
    · refine Outcome.bare_eq_bare.mpr ⟨rfl, ?_⟩
      rw [stuck_bare, stuck_bare, left]
    · exact same
  | attempt symbol =>
    have same := pushed symbol .optional frame.advance
    obtain ⟨answer, left⟩ := Outcome.bare_eq_bare.mp same
    unfold perform
    dsimp only
    rw [answer]
    split
    · exact Outcome.bare_eq_bare.mpr ⟨rfl, left⟩
    · exact same

theorem perform_alike (same : state.bare = other.bare) (move : Move) :
    (machine.perform state frame below move).bare =
      (machine.perform other frame below move).bare := by
  rw [← perform_bare, same, perform_bare]

theorem act_bare (productions : List Production) (token : Option Token) :
    (machine.act productions token state.bare frame below).bare =
      (machine.act productions token state frame below).bare := by
  unfold act
  dsimp only
  split
  · rename_i production _
    have same : (state.bare.select frame below production).bare =
        (state.select frame below production).bare := rfl
    exact perform_alike same _
  · exact perform_bare _

theorem step_bare : (machine.step state.bare).bare = (machine.step state).bare := by
  unfold step
  rw [show state.bare.stack = state.stack from rfl, show state.bare.tokens = state.tokens from rfl]
  cases state.stack with
  | nil => rfl
  | cons frame below =>
    dsimp only
    cases machine.grammar.productionsOf frame.symbol with
    | error unknown => rfl
    | ok productions =>
      cases state.tokens with
      | none => rfl
      | some tokens => exact act_bare productions tokens[state.cursor]?

theorem unwind_bare (state : State) (frames : List Frame) :
    (machine.unwind state.bare frames).bare = (machine.unwind state frames).bare := by
  obtain ⟨tokens, cursor, stack, markers, trace, result, failure⟩ := state
  show (machine.unwind ⟨tokens, cursor, stack, markers, [], result, none⟩ frames).bare = _
  induction frames generalizing markers with
  | nil => rfl
  | cons frame below ih =>
    unfold unwind
    cases machine.grammar.productionsOf frame.symbol with
    | error unknown => rfl
    | ok productions =>
      dsimp only
      by_cases more : decide (frame.start < cursor) = false ∧
          frame.nextProduction < productions.length
      · rw [if_pos more, if_pos more]
        rfl
      · rw [if_neg more, if_neg more]
        by_cases held : frame.marker ∈ markers
        · rw [if_pos held, if_pos held]
          by_cases absent : frame.origin.tentative = true ∧ decide (frame.start < cursor) = false
          · rw [if_pos absent, if_pos absent]
            cases frame.origin <;> cases below <;> rfl
          · rw [if_neg absent, if_neg absent]
            exact ih (markers.erase frame.marker)
        · rw [if_neg held, if_neg held]
          rfl

theorem pop_bare : (pop state.bare).bare = (pop state).bare := by
  unfold pop
  rw [show state.bare.stack = state.stack from rfl]
  cases state.stack with
  | nil => rfl
  | cons frame below =>
    dsimp only
    rw [apply_ite Outcome.bare, apply_ite Outcome.bare]
    rfl

theorem pass_bare : (machine.pass state.bare).bare = (machine.pass state).bare := by
  unfold pass
  rw [show state.bare.stack = state.stack from rfl]
  cases stack : state.stack with
  | nil => rfl
  | cons frame below =>
    dsimp only
    cases machine.grammar.productionsOf frame.symbol with
    | error unknown => rfl
    | ok productions =>
      dsimp only
      rw [apply_ite Phase.bare, apply_ite Phase.bare]
      refine if_congr Iff.rfl rfl ?_
      obtain ⟨answer, left⟩ := Outcome.bare_eq_bare.mp (pop_bare : (pop state.bare).bare = _)
      rw [answer]
      cases (pop state).result with
      | error fault => exact congrArg (Phase.stopped (.error fault)) left
      | ok value =>
        dsimp only
        rw [apply_ite Phase.bare, apply_ite Phase.bare]
        refine if_congr Iff.rfl ?_ (congrArg Phase.backtracking left)
        cases frame.origin with
        | goal | expand | optional => exact congrArg Phase.stepping left
        | again =>
          cases below with
          | nil => exact congrArg (Phase.stopped (.error .emptyStack)) left
          | cons parent rest =>
            exact congrArg (fun state => Phase.stepping
              { state with stack := parent.advance :: rest }) left

theorem tick_bare (phase : Phase) : (machine.tick phase.bare).bare = (machine.tick phase).bare := by
  cases phase with
  | stepping state =>
    have same : (machine.step state.bare).bare = (machine.step state).bare := step_bare
    show (machine.tick (.stepping state.bare)).bare = _
    by_cases empty : state.stack.isEmpty = true
    · simp only [tick, show state.bare.stack = state.stack from rfl, if_pos empty]
      rfl
    · simp only [tick, show state.bare.stack = state.stack from rfl, if_neg empty]
      obtain ⟨answer, left⟩ := Outcome.bare_eq_bare.mp same
      rw [answer]
      rcases (machine.step state).result with fault | _ | _
      · exact congrArg (Phase.stopped (.error fault)) left
      · exact congrArg Phase.backtracking left
      · exact congrArg Phase.stepping left
  | backtracking state => exact pass_bare
  | stopped result state => rfl

end Bare

section Alike

variable {machine : Machine} {state other : State} {phase twin : Phase}

theorem step_alike (same : state.bare = other.bare) :
    (machine.step state).bare = (machine.step other).bare := by
  rw [← step_bare, same, step_bare]

theorem backtrack_alike (same : state.bare = other.bare) :
    (machine.backtrack state).bare = (machine.backtrack other).bare := by
  unfold backtrack
  rw [State.stack_of_bare same, ← unwind_bare, same, unwind_bare]

theorem tick_alike (same : phase.bare = twin.bare) :
    (machine.tick phase).bare = (machine.tick twin).bare := by
  rw [← tick_bare, same, tick_bare]

end Alike

end Machine

end Descent
