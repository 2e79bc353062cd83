import Mathlib
import Descent.Proofs.Answers
import Descent.Proofs.Edits

/-! The machine looks no further than the next token.

Two runs over tokens that are the same up to a place go through the same states until the cursor
is beyond it. So an error at or before that place is reported in the same words, whatever comes
after it.
-/

set_option autoImplicit false

namespace Descent

def State.reading (state : State) (tokens : List Token) : State := { state with tokens := some tokens }

def Outcome.reading {α : Type} (outcome : Outcome α) (tokens : List Token) : Outcome α :=
  { outcome with after := outcome.after.reading tokens }

namespace Machine

namespace Phase

def reading (phase : Phase) (tokens : List Token) : Phase :=
  match phase with
  | stepping state => stepping (state.reading tokens)
  | backtracking state => backtracking (state.reading tokens)
  | stopped result state => stopped result (state.reading tokens)

end Phase

section Reading

variable {machine : Machine} {tokens others : List Token} {state : State} {frame : Frame}
  {below : List Frame}

theorem reading_self (installed : state.tokens = some tokens) : state.reading tokens = state := by
  unfold State.reading
  rw [← installed]

theorem phase_reading_self {phase : Phase} (installed : phase.state.tokens = some tokens) :
    phase.reading tokens = phase := by
  cases phase with
  | stepping state => exact congrArg Phase.stepping (reading_self installed)
  | backtracking state => exact congrArg Phase.backtracking (reading_self installed)
  | stopped result state => exact congrArg (Phase.stopped result) (reading_self installed)

theorem fail_reading (symbols : List String) (expected : List Expectation) :
    (state.reading others).fail symbols expected = (state.fail symbols expected).reading others := by
  obtain ⟨tokens, cursor, stack, markers, trace, result, failure⟩ := state
  cases failure with
  | none => rfl
  | some failure =>
    unfold State.fail
    dsimp only
    rw [apply_ite (State.reading · others), apply_ite (State.reading · others)]
    rfl

theorem push_reading (symbol : String) (origin : Origin) :
    machine.push symbol origin (state.reading others) =
      (machine.push symbol origin state).reading others := by
  unfold push
  dsimp only
  rw [apply_ite (Outcome.reading · others), apply_ite (Outcome.reading · others)]
  rfl

theorem complete_reading :
    complete (state.reading others) frame below = (complete state frame below).reading others := by
  unfold complete
  dsimp only
  rw [apply_ite (Outcome.reading · others)]
  cases below <;> rfl

theorem stack_reading (frames : List Frame) :
    { state.reading others with stack := frames } =
      State.reading { state with stack := frames } others := rfl

theorem stuck_reading (expected : List Expectation) :
    stuck (state.reading others) frame below expected =
      (stuck state frame below expected).reading others := by
  unfold stuck
  dsimp only
  rw [stack_reading, fail_reading]
  rfl

/-- The frame on top is told which token is next, and nothing else of the tokens. -/
theorem perform_reading (move : Move) :
    machine.perform (state.reading others) frame below move =
      (machine.perform state frame below move).reading others := by
  cases move with
  | complete => exact complete_reading
  | shift | leave => rfl
  | enter symbol origin =>
    unfold perform
    dsimp only
    rw [stack_reading, push_reading]
    generalize machine.push symbol origin _ = pushed
    obtain ⟨result, after, records⟩ := pushed
    dsimp only [Outcome.reading]
    split
    · rw [stuck_reading]
    · rfl
  | attempt symbol =>
    unfold perform
    dsimp only
    rw [stack_reading, push_reading]
    generalize machine.push symbol .optional _ = pushed
    obtain ⟨result, after, records⟩ := pushed
    cases result <;> rfl
  | stuck expected => exact congrArg (Outcome.done · false) (stuck_reading expected)

theorem select_reading (production : Nat) :
    (state.reading others).select frame below production =
      (state.select frame below production).reading others := rfl

theorem act_reading (productions : List Production) (token : Option Token) :
    machine.act productions token (state.reading others) frame below =
      (machine.act productions token state frame below).reading others := by
  unfold act
  dsimp only
  split
  · rw [select_reading, perform_reading]
  · exact perform_reading _

theorem step_reading (installed : state.tokens = some tokens)
    (same : tokens[state.cursor]? = others[state.cursor]?) :
    machine.step (state.reading others) = (machine.step state).reading others := by
  unfold step
  rw [installed, show (state.reading others).stack = state.stack from rfl,
    show (state.reading others).tokens = some others from rfl]
  cases state.stack with
  | nil => rfl
  | cons frame below =>
    dsimp only
    cases machine.grammar.productionsOf frame.symbol with
    | error unknown => rfl
    | ok productions =>
      show (machine.act productions others[state.cursor]? (state.reading others) frame
        below).following [Record.step _ (others[state.cursor]?.map Token.lexeme) _ _] = _
      rw [← same, act_reading]
      rfl

theorem pop_reading : pop (state.reading others) = (pop state).reading others := by
  obtain ⟨tokens, cursor, stack, markers, trace, result, failure⟩ := state
  cases stack with
  | nil => rfl
  | cons frame below =>
    unfold pop
    dsimp only
    rw [apply_ite (Outcome.reading · others)]
    rfl

theorem pass_reading : machine.pass (state.reading others) = (machine.pass state).reading others := by
  unfold pass
  rw [pop_reading, show (state.reading others).stack = state.stack from rfl]
  cases stack : state.stack with
  | nil => rfl
  | cons frame below =>
    dsimp only
    cases machine.grammar.productionsOf frame.symbol with
    | error unknown => rfl
    | ok productions =>
      dsimp only
      rw [apply_ite (Phase.reading · others)]
      refine if_congr Iff.rfl rfl ?_
      dsimp only [Outcome.reading]
      cases (pop state).result with
      | error fault => rfl
      | ok popped =>
        dsimp only
        rw [apply_ite (Phase.reading · others)]
        refine if_congr Iff.rfl ?_ rfl
        cases frame.origin <;> cases below <;> rfl

theorem tick_reading {phase : Phase} (installed : phase.state.tokens = some tokens)
    (same : tokens[phase.state.cursor]? = others[phase.state.cursor]?) :
    machine.tick (phase.reading others) = (machine.tick phase).reading others := by
  cases phase with
  | stepping state =>
    have stepped : machine.step (state.reading others) = _ := machine.step_reading installed same
    unfold tick Phase.reading
    dsimp only
    rw [stepped, show (state.reading others).stack = state.stack from rfl]
    split
    · rfl
    · dsimp only [Outcome.reading]
      cases (machine.step state).result with
      | error fault => rfl
      | ok value => cases value <;> rfl
  | backtracking state => exact pass_reading
  | stopped result state => rfl

end Reading

section Cursor

variable {machine : Machine}

theorem tick_cursor (phase : Phase) : phase.state.cursor ≤ (machine.tick phase).state.cursor := by
  rcases machine.tick_edits phase with ⟨after, edits, same⟩ | ⟨last, frame, rfl, _, _, next⟩
  · rw [← same]
    exact edits.changes.forward
  · rw [next]
    exact Nat.le_refl _

theorem ticks_cursor (phase : Phase) {early late : Nat} (le : early ≤ late) :
    (machine.tick^[early] phase).state.cursor ≤ (machine.tick^[late] phase).state.cursor := by
  induction le with
  | refl => exact Nat.le_refl _
  | step _ ih =>
    rw [Function.iterate_succ_apply']
    exact ih.trans (tick_cursor _)

end Cursor

section Runs

variable {machine : Machine} {tokens others : List Token} {state : State} {phase : Phase} {limit : Nat}

theorem tick_installed (installed : phase.state.tokens = some tokens) :
    (machine.tick phase).state.tokens = some tokens := by
  have same := machine.tick_reading installed rfl
  rw [phase_reading_self installed] at same
  rw [same]
  cases machine.tick phase <;> rfl

theorem ticks_installed (installed : phase.state.tokens = some tokens) (count : Nat) :
    (machine.tick^[count] phase).state.tokens = some tokens := by
  induction count with
  | zero => exact installed
  | succ count ih =>
    rw [Function.iterate_succ_apply']
    exact tick_installed ih

/-- Over tokens that are the same up to a place, two loops stay together until one of them is
beyond it. -/
theorem ticks_reading (phase : Phase) (installed : phase.state.tokens = some tokens)
    (same : ∀ place ≤ limit, tokens[place]? = others[place]?) {count : Nat}
    (near : ∀ earlier < count, (machine.tick^[earlier] phase).state.cursor ≤ limit) :
    machine.tick^[count] (phase.reading others) = (machine.tick^[count] phase).reading others := by
  induction count with
  | zero => rfl
  | succ count ih =>
    rw [Function.iterate_succ_apply', Function.iterate_succ_apply',
      ih fun earlier before => near earlier (before.trans (Nat.lt_succ_self _))]
    exact tick_reading (ticks_installed installed count) (same _ (near count (Nat.lt_succ_self _)))

theorem ticks_stopped (result : Except Fault Unit) (state : State) (count : Nat) :
    machine.tick^[count] (.stopped result state) = .stopped result state :=
  Function.iterate_fixed rfl count

theorem ending_reading (installed : state.tokens = some tokens)
    (same : ∀ place ≤ limit, tokens[place]? = others[place]?)
    (near : (machine.ending state).2.cursor ≤ limit) :
    machine.ending (state.reading others) =
      ((machine.ending state).1, (machine.ending state).2.reading others) := by
  obtain ⟨count, stopped⟩ := machine.ticks_ending state
  obtain ⟨other, elsewhere⟩ := machine.ticks_ending (state.reading others)
  have early : ∀ earlier < count,
      (machine.tick^[earlier] (.stepping state)).state.cursor ≤ limit := fun earlier before => by
    have le := machine.ticks_cursor (.stepping state) before.le
    rw [stopped] at le
    exact le.trans near
  have together := ticks_reading (.stepping state) installed same early
  -- What has stopped stays so: after the ticks of both loops each is where it stopped.
  have met : machine.tick^[other + count] (.stepping (state.reading others)) =
      machine.tick^[other] ((machine.tick^[count] (.stepping state)).reading others) := by
    rw [Function.iterate_add_apply]
    exact congrArg _ together
  rw [Nat.add_comm, Function.iterate_add_apply, elsewhere, stopped, Phase.reading, ticks_stopped,
    ticks_stopped] at met
  injection met with answer after
  exact Prod.ext answer after

theorem verdict_cursor : (verdict tokens state).after.cursor = state.cursor := by
  unfold verdict
  split
  · rfl
  · split
    · obtain ⟨failure, same⟩ := fail_eq state _ _
      rw [show (Outcome.done (state.fail _ _) false).after = state.fail _ _ from rfl, same]
    · rfl

theorem verdict_reading (left : state.cursor < tokens.length) (left' : state.cursor < others.length) :
    verdict others (state.reading others) = (verdict tokens state).reading others := by
  unfold verdict
  rw [show (state.reading others).result = state.result from rfl,
    show (state.reading others).cursor = state.cursor from rfl]
  cases state.result with
  | none => rfl
  | some tree =>
    dsimp only
    rw [if_pos left, if_pos left', fail_reading]
    rfl

theorem run_reading (installed : state.tokens = some tokens)
    (same : ∀ place ≤ limit, tokens[place]? = others[place]?) (long : limit < tokens.length)
    (other : limit < others.length) (near : (machine.run state).after.cursor ≤ limit) :
    Gives (machine.run (state.reading others)) (machine.run state).result
      ((machine.run state).after.reading others) := by
  obtain ⟨result, after⟩ := machine.run_ending installed
  have elsewhere : Gives (machine.run (state.reading others)) _ _ := machine.run_ending rfl
  rw [result, after]
  rw [after] at near
  rcases ended : machine.ending state with ⟨fault | _, final⟩
  · rw [ended] at near
    have together := ending_reading installed same (by rw [ended]; exact near)
    rw [together, ended] at elsewhere
    exact elsewhere
  · rw [ended] at near
    replace near : final.cursor ≤ limit := verdict_cursor.ge.trans near
    have together := ending_reading installed same (by rw [ended]; exact near)
    rw [together, ended] at elsewhere
    have judged := verdict_reading (near.trans_lt long) (near.trans_lt other)
    dsimp only at elsewhere ⊢
    rw [judged] at elsewhere
    exact elsewhere

theorem pushGoal_reading (goal : String) (tokens others : List Token) :
    (machine.pushGoal goal (.initial others)).after =
      (machine.pushGoal goal (.initial tokens)).after.reading others := by
  have pushed : machine.push goal .goal ((State.initial tokens).reading others) = _ :=
    push_reading goal .goal
  exact congrArg Outcome.after pushed

end Runs

end Machine

def Outcome.errorAt? (outcome : Outcome Bool) : Option Nat :=
  match outcome.result with
  | .ok true => none
  | .ok false => outcome.after.failure.map Failure.position
  | .error (.depthExceeded exceeded) => some exceeded.cursor
  | .error _ => none

theorem Machine.Finished.errorAt? {machine : Machine} {tokens : List Token} {goal : String}
    {outcome : Outcome Bool} (finished : machine.Finished tokens goal outcome) {position : Nat}
    (reported : outcome.errorAt? = some position) : outcome.after.cursor = position := by
  unfold Outcome.errorAt? at reported
  cases finished with
  | accepted result =>
    rw [result] at reported
    cases reported
  | leftover result _ _ recorded place =>
    rw [result, recorded] at reported
    exact place.symm.trans (Option.some.inj reported)
  | stopped result _ _ _ cursor recorded names =>
    rw [result, recorded] at reported
    exact cursor.trans (names.position.symm.trans (Option.some.inj reported))
  | deep result cursor =>
    rw [result] at reported
    exact cursor.trans (Option.some.inj reported)

namespace Parse

variable {tokens others : List Token} {position : Nat}

theorem place_congr {token : Token} (there : tokens[position]? = some token)
    (same : tokens[position]? = others[position]?) : place tokens position = place others position := by
  unfold place
  rw [← same, there]

theorem unexpected_congr (same : tokens[position]? = others[position]?) :
    unexpected tokens position = unexpected others position := by
  unfold unexpected
  rw [same]

theorem failureMessage_eq (result : Option Tree) (failure : Failure) :
    failureMessage tokens result failure = place tokens failure.position ++ ": " ++
      (unexpected tokens failure.position ++ if result.isSome then ". Expected end of input"
        else " while parsing " ++ failure.symbols.getLastD "" ++ ". Expected one of: " ++
          ", ".intercalate failure.expectedTexts) :=
  String.append_assoc

theorem depthMessage_eq (exceeded : DepthExceeded) :
    depthMessage tokens exceeded = place tokens exceeded.cursor ++ ": " ++
      ("Critical parsing error: " ++ exceeded.message) := by
  unfold depthMessage
  rw [String.append_assoc, String.append_assoc]
  rfl

end Parse

namespace Parser

variable {parser : Parser} {tokens others : List Token} {position limit : Nat}

theorem finish_run {machine : Machine} (room : 0 < machine.maxDepth) :
    finish machine tokens =
      machine.run (machine.pushGoal machine.grammar.start.name (.initial tokens)).after :=
  Machine.derive_run room

theorem parse_error_congr (deep : 1 ≤ parser.maxDepth)
    (reported : (finish parser.machine tokens).errorAt? = some position)
    (inside : position < tokens.length) (same : tokens[position]? = others[position]?)
    (gives : Machine.Gives (finish parser.machine others) (finish parser.machine tokens).result
      ((finish parser.machine tokens).after.reading others)) :
    ∃ words, parser.parse tokens = .ok ⟨none, [Parse.place tokens position ++ ": " ++ words]⟩ ∧
      parser.parse others = parser.parse tokens := by
  have place := Parse.place_congr (List.getElem?_eq_getElem inside) same
  have unexpected := Parse.unexpected_congr same
  rw [parse_eq deep, parse_eq deep, gives.1, gives.2]
  generalize finish parser.machine tokens = outcome at reported
  obtain ⟨result, after, records⟩ := outcome
  unfold Outcome.errorAt? at reported
  rcases result with fault | accepted
  · cases fault with
    | depthExceeded exceeded =>
      cases reported
      dsimp only
      rw [Parse.depthMessage_eq, Parse.depthMessage_eq, place]
      exact ⟨_, rfl, rfl⟩
    | _ => cases reported
  · cases accepted with
    | true => cases reported
    | false =>
      obtain ⟨failure, recorded, rfl⟩ := Option.map_eq_some_iff.mp reported
      dsimp only [State.reading] at recorded ⊢
      rw [recorded]
      dsimp only
      rw [Parse.failureMessage_eq, Parse.failureMessage_eq, place, unexpected]
      exact ⟨_, rfl, rfl⟩

/-- A machine and its parser look no further than the next token. Over tokens that are the same up
to a place, the loops from a goal stay together until one is beyond it. An error at or before the
place is answered in the same words. -/
theorem parse_foresight (deep : 1 ≤ parser.maxDepth) (long : limit < tokens.length)
    (other : limit < others.length) (same : tokens.take (limit + 1) = others.take (limit + 1)) :
    (∀ goal count,
      (∀ earlier < count, (parser.machine.tick^[earlier]
        (.stepping (parser.machine.pushGoal goal (.initial tokens)).after)).state.cursor ≤ limit) →
      parser.machine.tick^[count]
          (.stepping (parser.machine.pushGoal goal (.initial others)).after) =
        (parser.machine.tick^[count]
          (.stepping (parser.machine.pushGoal goal (.initial tokens)).after)).reading others) ∧
    ∀ position ≤ limit, (finish parser.machine tokens).errorAt? = some position →
      ∃ words, parser.parse tokens = .ok ⟨none, [Parse.place tokens position ++ ": " ++ words]⟩ ∧
        parser.parse others = parser.parse tokens := by
  have room : 0 < parser.machine.maxDepth := by
    show 0 < parser.maxDepth.toNat
    omega
  have alike : ∀ place ≤ limit, tokens[place]? = others[place]? := fun place le => by
    rw [← List.getElem?_take_of_lt (Nat.lt_succ_of_le le), same,
      List.getElem?_take_of_lt (Nat.lt_succ_of_le le)]
  have installed : ∀ goal, (parser.machine.pushGoal goal (.initial tokens)).after.tokens =
      some tokens := fun goal => by
    rw [(Machine.pushGoal_room room).2]
    rfl
  refine ⟨fun goal count near => ?_, fun position before reported => ?_⟩
  · rw [Machine.pushGoal_reading goal tokens others]
    exact Machine.ticks_reading (.stepping _) (installed goal) alike near
  · have finished : parser.machine.Finished tokens _ (finish parser.machine tokens) :=
      Machine.derive_finished knows_start room tokens
    have cursor := finished.errorAt? reported
    refine parse_error_congr deep reported (before.trans_lt long) (alike position before) ?_
    rw [finish_run room] at cursor
    rw [finish_run room, finish_run room, Machine.pushGoal_reading _ tokens others]
    exact Machine.run_reading (installed _) alike long other (cursor.trans_le before)

/-- What follows the second closing bracket of two does not change what is said about it. -/
theorem parse_foresight_leftover :
    let parser : Parser := ⟨Brackets.grammar, 3⟩
    let tokens := Brackets.tokens ["a", "b", "b", "a"]
    let others := Brackets.tokens ["a", "b", "b", "b", "b"]
    let goal (tokens : List Token) := Machine.Phase.stepping
      (parser.machine.pushGoal "S" (.initial tokens)).after
    (finish parser.machine tokens).errorAt? = some 2 ∧
      parser.machine.tick^[12] (goal others) = (parser.machine.tick^[12] (goal tokens)).reading others ∧
      ∃ words, parser.parse tokens = .ok ⟨none, [Parse.place tokens 2 ++ ": " ++ words]⟩ ∧
        parser.parse others = parser.parse tokens := by
  intro parser tokens others goal
  have reported : (finish parser.machine tokens).errorAt? = some 2 := by cbv
  have foresight := @parse_foresight parser tokens others 2 (by decide) (by decide) (by decide)
    (by decide)
  refine ⟨reported, foresight.1 "S" 12 ?_, foresight.2 2 (Nat.le_refl _) reported⟩
  decide

end Parser

end Descent
