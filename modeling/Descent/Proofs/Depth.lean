import Mathlib
import Descent.Proofs.Lookahead

/-! The limit of the stack is a limit and nothing else.

Two machines with one grammar go through the same states as long as the stack fits the smaller
of them. Where it does not, the smaller breaks off and the larger goes on from the same place.
-/

set_option autoImplicit false

namespace Descent

namespace Machine

/-- The operation broke off since the stack would have grown past its limit. -/
def Overflows {α : Type} (outcome : Outcome α) : Prop :=
  ∃ exceeded, outcome.result = .error (.depthExceeded exceeded)

/-- Where the loops of a run from the goal stand after so many ticks. -/
def moment (machine : Machine) (tokens : List Token) (goal : String) (time : Nat) : Phase :=
  machine.tick^[time] (.stepping (machine.pushGoal goal (.initial tokens)).after)

/-- The stack fits, and what is said of one that did not is said of the state that is left. -/
structure Bounded {α : Type} (machine : Machine) (outcome : Outcome α) : Prop where
  fits : outcome.after.stack.length ≤ machine.maxDepth
  told : ∀ exceeded, outcome.result = .error (.depthExceeded exceeded) →
    exceeded = ⟨machine.maxDepth, outcome.after.cursor, outcome.after.symbols⟩ ∧
      outcome.after.stack.length = machine.maxDepth

section Bounded

variable {machine : Machine} {state : State} {frame : Frame} {below : List Frame}

theorem push_bounded (symbol : String) (origin : Origin)
    (fits : state.stack.length ≤ machine.maxDepth) :
    machine.Bounded (machine.push symbol origin state) := by
  unfold push
  dsimp only
  split
  · exact ⟨fits, nofun⟩
  · split
    · rename_i full
      refine ⟨fits, fun exceeded told => ?_⟩
      cases told
      exact ⟨rfl, Nat.le_antisymm fits full⟩
    · rename_i room
      exact ⟨Nat.lt_of_not_le room, nofun⟩

theorem pop_bounded (fits : state.stack.length ≤ machine.maxDepth) :
    machine.Bounded (pop state) := by
  unfold pop
  split
  · exact ⟨fits, nofun⟩
  · rename_i stack
    rw [stack] at fits
    split
    · exact ⟨Nat.le_of_succ_le fits, nofun⟩
    · exact ⟨Nat.le_of_succ_le fits, nofun⟩

theorem complete_bounded (fits : (frame :: below).length ≤ machine.maxDepth) :
    machine.Bounded (complete state frame below) := by
  unfold complete
  dsimp only
  split
  · cases below with
    | nil => exact ⟨Nat.zero_le _, nofun⟩
    | cons parent rest => exact ⟨Nat.le_of_succ_le fits, nofun⟩
  · exact ⟨Nat.le_of_succ_le fits, nofun⟩

theorem stuck_fits (expected : List Expectation) (state : State)
    (fits : (frame :: below).length ≤ machine.maxDepth) :
    (stuck state frame below expected).stack.length ≤ machine.maxDepth := by
  unfold stuck
  dsimp only
  rw [fail_stack]
  exact fits

theorem perform_bounded (move : Move) (fits : (frame :: below).length ≤ machine.maxDepth) :
    machine.Bounded (machine.perform state frame below move) := by
  have pushed (symbol : String) (origin : Origin) (slot : Frame) :
      machine.Bounded (machine.push symbol origin { state with stack := slot :: below }) :=
    push_bounded symbol origin fits
  cases move with
  | complete => exact complete_bounded fits
  | shift | leave => exact ⟨fits, nofun⟩
  | enter symbol origin =>
    unfold perform
    dsimp only
    split
    · rename_i refused
      exact ⟨stuck_fits _ _ fits, fun _ told => nomatch refused.symm.trans told⟩
    · exact pushed symbol origin _
  | attempt symbol =>
    unfold perform
    dsimp only
    split
    · exact ⟨(pushed symbol .optional _).fits, nofun⟩
    · exact pushed symbol .optional _
  | stuck expected => exact ⟨stuck_fits expected state fits, nofun⟩

theorem step_bounded (fits : state.stack.length ≤ machine.maxDepth) :
    machine.Bounded (machine.step state) := by
  unfold step
  split
  · exact ⟨fits, nofun⟩
  · rename_i frame below stack
    split
    · exact ⟨fits, nofun⟩
    · exact ⟨fits, nofun⟩
    · rw [stack] at fits
      suffices machine.Bounded (machine.act _ _ state frame below) from ⟨this.fits, this.told⟩
      unfold act
      split
      · exact perform_bounded _ fits
      · exact perform_bounded _ fits

end Bounded

namespace Phase

structure Bounded (machine : Machine) (phase : Phase) : Prop where
  fits : phase.state.stack.length ≤ machine.maxDepth
  told : ∀ exceeded after, phase = .stopped (.error (.depthExceeded exceeded)) after →
    exceeded = ⟨machine.maxDepth, after.cursor, after.symbols⟩ ∧
      after.stack.length = machine.maxDepth

end Phase

section Bounded

variable {machine : Machine} {state : State} {phase : Phase}

theorem pass_bounded (fits : state.stack.length ≤ machine.maxDepth) :
    (machine.pass state).Bounded machine := by
  have dropped : machine.Bounded (pop state) := pop_bounded fits
  unfold pass
  split
  · exact ⟨fits, nofun⟩
  · rename_i frame below stack
    split
    · exact ⟨fits, nofun⟩
    · rw [stack] at fits
      dsimp only
      split
      · exact ⟨fits, nofun⟩
      · split
        · rename_i broken
          refine ⟨dropped.fits, fun exceeded after told => ?_⟩
          cases told
          exact dropped.told exceeded broken
        · split
          · split
            · exact ⟨dropped.fits, nofun⟩
            · exact ⟨Nat.le_of_succ_le fits, nofun⟩
            · exact ⟨dropped.fits, nofun⟩
          · exact ⟨dropped.fits, nofun⟩

theorem tick_bounded (bounded : phase.Bounded machine) : (machine.tick phase).Bounded machine := by
  cases phase with
  | stepping state =>
    have stepped : machine.Bounded (machine.step state) := step_bounded bounded.fits
    unfold tick
    dsimp only
    split
    · exact ⟨bounded.fits, nofun⟩
    · split
      · exact ⟨stepped.fits, nofun⟩
      · exact ⟨stepped.fits, nofun⟩
      · rename_i broken
        refine ⟨stepped.fits, fun exceeded after told => ?_⟩
        cases told
        exact stepped.told exceeded broken
  | backtracking state => exact pass_bounded bounded.fits
  | stopped => exact bounded

theorem moment_bounded (machine : Machine) (tokens : List Token) (goal : String) (time : Nat) :
    (machine.moment tokens goal time).Bounded machine := by
  induction time with
  | zero =>
    refine ⟨?_, nofun⟩
    show (machine.pushGoal goal (.initial tokens)).after.stack.length ≤ machine.maxDepth
    exact pushGoal_cases (fun _ => Nat.zero_le _) fun room => room
  | succ time ih =>
    unfold moment
    rw [Function.iterate_succ_apply']
    exact tick_bounded ih

end Bounded

/-- The first operation breaks off at a stack of so many frames, and the second goes on from
there. -/
structure Capped (limit : Nat) (small large : Outcome Bool) : Prop where
  broken : Overflows small
  went : large.result = .ok true
  higher : limit < large.after.stack.length
  cursor : large.after.cursor = small.after.cursor
  trace : large.after.trace = small.after.trace

section Capped

variable {low high : Nat} {frame : Frame} {below : List Frame} (grammar : Grammar) (state : State)

theorem push_capped (le : low ≤ high) (fits : state.stack.length ≤ low) (symbol : String)
    (origin : Origin) :
    push ⟨grammar, high⟩ symbol origin state = push ⟨grammar, low⟩ symbol origin state ∨
      Capped low (push ⟨grammar, low⟩ symbol origin state)
        (push ⟨grammar, high⟩ symbol origin state) := by
  unfold push
  dsimp only
  by_cases held : state.marker symbol ∈ state.markers
  · rw [if_pos held, if_pos held]
    exact .inl rfl
  · rw [if_neg held, if_neg held]
    by_cases full : low ≤ state.stack.length
    · by_cases deep : high ≤ state.stack.length
      · obtain rfl : low = high := by omega
        exact .inl rfl
      · rw [if_pos full, if_neg deep]
        exact .inr ⟨⟨_, rfl⟩, rfl, Nat.lt_succ_of_le full, rfl, rfl⟩
    · rw [if_neg full, if_neg (by omega)]
      exact .inl rfl

theorem perform_capped (frame : Frame) (le : low ≤ high) (fits : (frame :: below).length ≤ low)
    (move : Move) :
    perform ⟨grammar, high⟩ state frame below move =
        perform ⟨grammar, low⟩ state frame below move ∨
      Capped low (perform ⟨grammar, low⟩ state frame below move)
        (perform ⟨grammar, high⟩ state frame below move) := by
  have pushed (symbol : String) (origin : Origin) (slot : Frame) :=
    push_capped grammar { state with stack := slot :: below } le fits symbol origin
  cases move with
  | complete | shift | leave | stuck => exact .inl rfl
  | enter symbol origin =>
    unfold perform
    dsimp only
    rcases pushed symbol origin { frame with progressed := none } with same | capped
    · rw [same]
      exact .inl rfl
    · obtain ⟨⟨exceeded, broken⟩, went, higher, cursor, trace⟩ := capped
      rw [broken, went]
      exact .inr ⟨⟨exceeded, broken⟩, went, higher, cursor, trace⟩
  | attempt symbol =>
    unfold perform
    dsimp only
    rcases pushed symbol .optional frame.advance with same | capped
    · rw [same]
      exact .inl rfl
    · obtain ⟨⟨exceeded, broken⟩, went, higher, cursor, trace⟩ := capped
      rw [broken, went]
      exact .inr ⟨⟨exceeded, broken⟩, rfl, higher, cursor, trace⟩

theorem act_capped (le : low ≤ high) (fits : (frame :: below).length ≤ low)
    (productions : List Production) (token : Option Token) :
    act ⟨grammar, high⟩ productions token state frame below =
        act ⟨grammar, low⟩ productions token state frame below ∨
      Capped low (act ⟨grammar, low⟩ productions token state frame below)
        (act ⟨grammar, high⟩ productions token state frame below) := by
  unfold act
  rw [show predicted? ⟨grammar, high⟩ productions token frame =
    predicted? ⟨grammar, low⟩ productions token frame from rfl]
  cases predicted? ⟨grammar, low⟩ productions token frame with
  | some production =>
    exact perform_capped grammar _ (frame.select production) le fits
      (move ⟨grammar, low⟩ productions token (frame.select production))
  | none =>
    exact perform_capped grammar _ frame le fits (move ⟨grammar, low⟩ productions token frame)

theorem step_capped (le : low ≤ high) (fits : state.stack.length ≤ low) :
    step ⟨grammar, high⟩ state = step ⟨grammar, low⟩ state ∨
      Capped low (step ⟨grammar, low⟩ state) (step ⟨grammar, high⟩ state) := by
  unfold step
  split
  · exact .inl rfl
  · rename_i frame below stack
    rw [stack] at fits
    dsimp only
    cases grammar.productionsOf frame.symbol with
    | error unknown => exact .inl rfl
    | ok productions =>
      cases state.tokens with
      | none => exact .inl rfl
      | some tokens =>
        dsimp only
        rcases act_capped grammar state le fits productions tokens[state.cursor]? with
          same | ⟨broken, went, higher, cursor, trace⟩
        · rw [same]
          exact .inl rfl
        · exact .inr ⟨broken, went, higher, cursor, trace⟩

end Capped

/-- The first machine is stopped by its next tick, and the second goes on from there. -/
structure Parted (small large : Machine) (before : Phase) : Prop where
  broken : ∃ exceeded after,
    small.tick before = .stopped (.error (.depthExceeded exceeded)) after
  higher : small.maxDepth < (large.tick before).state.stack.length
  cursor : (large.tick before).state.cursor = (small.tick before).state.cursor
  trace : (large.tick before).state.trace = (small.tick before).state.trace

section Parted

variable {grammar : Grammar} {low high : Nat}

theorem tick_capped (grammar : Grammar) (phase : Phase) (le : low ≤ high)
    (fits : phase.state.stack.length ≤ low) :
    tick ⟨grammar, high⟩ phase = tick ⟨grammar, low⟩ phase ∨
      Parted ⟨grammar, low⟩ ⟨grammar, high⟩ phase := by
  cases phase with
  | stepping state =>
    by_cases empty : state.stack.isEmpty = true
    · left
      simp only [tick, if_pos empty]
    · rcases step_capped grammar state le fits with same | capped
      · left
        simp only [tick, if_neg empty, same]
      · obtain ⟨⟨exceeded, broken⟩, went, higher, cursor, trace⟩ := capped
        have stops : tick ⟨grammar, low⟩ (.stepping state) =
            .stopped (.error (.depthExceeded exceeded)) (step ⟨grammar, low⟩ state).after := by
          simp only [tick, if_neg empty, broken]
        have goes : tick ⟨grammar, high⟩ (.stepping state) =
            .stepping (step ⟨grammar, high⟩ state).after := by
          simp only [tick, if_neg empty, went]
        refine .inr ⟨⟨_, _, stops⟩, ?_, ?_, ?_⟩
        · rw [goes]
          exact higher
        · rw [goes, stops]
          exact cursor
        · rw [goes, stops]
          exact trace
  | backtracking | stopped => exact .inl rfl

/-- Two runs from a goal are together, or were so until the first of them was stopped. -/
theorem moments_capped (some : 1 ≤ low) (le : low ≤ high) (tokens : List Token) (goal : String)
    (time : Nat) :
    (∀ earlier ≤ time, moment ⟨grammar, high⟩ tokens goal earlier =
        moment ⟨grammar, low⟩ tokens goal earlier) ∨
      ∃ last < time, (∀ earlier ≤ last, moment ⟨grammar, high⟩ tokens goal earlier =
          moment ⟨grammar, low⟩ tokens goal earlier) ∧
        Parted ⟨grammar, low⟩ ⟨grammar, high⟩ (moment ⟨grammar, low⟩ tokens goal last) := by
  induction time with
  | zero =>
    left
    intro earlier before
    rw [Nat.le_zero.mp before]
    show Phase.stepping (pushGoal ⟨grammar, high⟩ goal (.initial tokens)).after = .stepping _
    have small : Gives (pushGoal ⟨grammar, low⟩ goal (.initial tokens)) _ _ := pushGoal_room some
    have large : Gives (pushGoal ⟨grammar, high⟩ goal (.initial tokens)) _ _ :=
      pushGoal_room (some.trans le)
    rw [small.2, large.2]
  | succ time ih =>
    rcases ih with together | ⟨last, before, parted⟩
    · have bounded := moment_bounded ⟨grammar, low⟩ tokens goal time
      rcases tick_capped grammar _ le bounded.fits with same | parted
      · left
        intro earlier before
        rcases Nat.lt_or_eq_of_le before with before | rfl
        · exact together earlier (Nat.le_of_lt_succ before)
        · unfold moment at together ⊢
          rw [Function.iterate_succ_apply', together time (Nat.le_refl _),
            Function.iterate_succ_apply']
          exact same
      · exact .inr ⟨time, Nat.lt_succ_self _, together, parted⟩
    · exact .inr ⟨last, before.trans (Nat.lt_succ_self _), parted⟩

end Parted

def concluded (tokens : List Token) (result : Except Fault Unit) (after : State) : Outcome Bool :=
  match result with
  | .ok () => verdict tokens after
  | .error fault => .raise after fault

theorem moment_succ (machine : Machine) (tokens : List Token) (goal : String) (time : Nat) :
    machine.moment tokens goal (time + 1) = machine.tick (machine.moment tokens goal time) :=
  Function.iterate_succ_apply' _ _ _

section Stops

variable {machine : Machine} {phase : Phase} {tokens : List Token} {goal : String}

theorem stops_once {result other : Except Fault Unit} {after final : State} {early late : Nat}
    (stopped : machine.tick^[early] phase = .stopped result after)
    (again : machine.tick^[late] phase = .stopped other final) :
    result = other ∧ after = final := by
  have met : machine.tick^[late + early] phase = machine.tick^[early + late] phase :=
    congrArg (machine.tick^[·] phase) (Nat.add_comm late early)
  rw [Function.iterate_add_apply, Function.iterate_add_apply, stopped, again, ticks_stopped,
    ticks_stopped] at met
  injection met with answer left
  exact ⟨answer, left⟩

theorem moment_stops (machine : Machine) (tokens : List Token) (goal : String) :
    ∃ time result after, machine.moment tokens goal time = .stopped result after := by
  obtain ⟨time, stopped⟩ := machine.ticks_ending (machine.pushGoal goal (.initial tokens)).after
  exact ⟨time, _, _, stopped⟩

theorem ending_of_moment {result : Except Fault Unit} {after : State} {time : Nat}
    (stopped : machine.moment tokens goal time = .stopped result after) :
    machine.ending (machine.pushGoal goal (.initial tokens)).after = (result, after) := by
  obtain ⟨count, ended⟩ := machine.ticks_ending (machine.pushGoal goal (.initial tokens)).after
  obtain ⟨answer, final⟩ := stops_once ended stopped
  exact Prod.ext answer final

theorem derive_ending (machine : Machine) (room : 0 < machine.maxDepth) {result : Except Fault Unit}
    {after : State}
    (ended : machine.ending (machine.pushGoal goal (.initial tokens)).after = (result, after)) :
    Gives (machine.derive goal tokens) (concluded tokens result after).result
      (concluded tokens result after).after := by
  have installed : (machine.pushGoal goal (.initial tokens)).after.tokens = some tokens := by
    rw [(pushGoal_room room).2]
    rfl
  have outcome := machine.run_ending installed
  rw [ended] at outcome
  rw [derive_run room]
  cases result with
  | ok => exact outcome
  | error fault => exact outcome

theorem derive_of_moment (machine : Machine) (room : 0 < machine.maxDepth)
    {result : Except Fault Unit} {after : State} {time : Nat}
    (stopped : machine.moment tokens goal time = .stopped result after) :
    Gives (machine.derive goal tokens) (concluded tokens result after).result
      (concluded tokens result after).after :=
  derive_ending machine room (ending_of_moment stopped)

theorem overflows_of_moment (machine : Machine) (room : 0 < machine.maxDepth)
    {exceeded : DepthExceeded} {after : State} {time : Nat}
    (stopped : machine.moment tokens goal time =
      .stopped (.error (.depthExceeded exceeded)) after) :
    Gives (machine.derive goal tokens) (.error (.depthExceeded exceeded)) after :=
  derive_of_moment machine room stopped

theorem moment_of_overflow (machine : Machine) (room : 0 < machine.maxDepth)
    {exceeded : DepthExceeded}
    (deep : (machine.derive goal tokens).result = .error (.depthExceeded exceeded)) :
    ∃ time, machine.moment tokens goal time =
      .stopped (.error (.depthExceeded exceeded)) (machine.derive goal tokens).after := by
  obtain ⟨time, result, after, stopped⟩ := machine.moment_stops tokens goal
  obtain ⟨answer, left⟩ := derive_of_moment machine room stopped
  refine ⟨time, ?_⟩
  rcases result with fault | _
  · cases deep.symm.trans answer
    rw [left]
    exact stopped
  · rcases verdict_ok tokens after with judged | judged
    · cases deep.symm.trans (answer.trans judged)
    · cases deep.symm.trans (answer.trans judged)

end Stops

section Depth

variable {grammar : Grammar} {low high : Nat} {tokens : List Token} {goal : String}

theorem Parted.overflows (some : 1 ≤ low) {large : Machine} {last : Nat}
    (parted : Parted ⟨grammar, low⟩ large (moment ⟨grammar, low⟩ tokens goal last)) :
    Overflows (derive ⟨grammar, low⟩ goal tokens) := by
  obtain ⟨exceeded, after, stopped⟩ := parted.broken
  rw [← moment_succ] at stopped
  exact ⟨exceeded, (overflows_of_moment ⟨grammar, low⟩ some stopped).1⟩

/-- A run that is not broken off is the run of any larger machine. -/
theorem moments_together (some : 1 ≤ low) (le : low ≤ high)
    (calm : ¬Overflows (derive ⟨grammar, low⟩ goal tokens)) (time : Nat) :
    moment ⟨grammar, high⟩ tokens goal time = moment ⟨grammar, low⟩ tokens goal time := by
  rcases moments_capped some le tokens goal time with together | ⟨last, _, _, parted⟩
  · exact together time (Nat.le_refl _)
  · exact absurd (parted.overflows some) calm

theorem overflows_iff (some : 1 ≤ low) (le : low ≤ high) :
    Overflows (derive ⟨grammar, low⟩ goal tokens) ↔
      Overflows (derive ⟨grammar, high⟩ goal tokens) ∨
        ∃ time, low < (moment ⟨grammar, high⟩ tokens goal time).state.stack.length := by
  constructor
  · rintro ⟨exceeded, deep⟩
    obtain ⟨time, stopped⟩ := moment_of_overflow ⟨grammar, low⟩ some deep
    rcases moments_capped some le tokens goal time with together | ⟨last, _, together, parted⟩
    · rw [← together time (Nat.le_refl _)] at stopped
      exact .inl ⟨exceeded, (overflows_of_moment ⟨grammar, high⟩ (some.trans le)
        stopped).1⟩
    · refine .inr ⟨last + 1, ?_⟩
      rw [moment_succ, together last (Nat.le_refl _)]
      exact parted.higher
  · intro larger
    by_contra calm
    have together := moments_together some le calm
    rcases larger with ⟨exceeded, deep⟩ | ⟨time, higher⟩
    · obtain ⟨time, stopped⟩ := moment_of_overflow ⟨grammar, high⟩ (some.trans le) deep
      rw [together] at stopped
      exact calm ⟨exceeded, (overflows_of_moment ⟨grammar, low⟩ some stopped).1⟩
    · have bounded := moment_bounded ⟨grammar, low⟩ tokens goal time
      rw [together] at higher
      exact Nat.not_lt_of_le bounded.fits higher

theorem derive_calm (some : 1 ≤ low) (le : low ≤ high)
    (calm : ¬Overflows (derive ⟨grammar, low⟩ goal tokens)) :
    Gives (derive ⟨grammar, high⟩ goal tokens) (derive ⟨grammar, low⟩ goal tokens).result
      (derive ⟨grammar, low⟩ goal tokens).after := by
  obtain ⟨time, result, after, stopped⟩ := moment_stops ⟨grammar, low⟩ tokens goal
  have small := derive_of_moment ⟨grammar, low⟩ some stopped
  rw [← moments_together some le calm] at stopped
  have large := derive_of_moment ⟨grammar, high⟩ (some.trans le) stopped
  exact ⟨large.1.trans small.1.symm, large.2.trans small.2.symm⟩

/-- A limit has no say in a run that it does not break off. A run that it does break off is, up
to there, the run of any larger machine. -/
theorem derive_capped (some : 1 ≤ low) (le : low ≤ high) (tokens : List Token) (goal : String) :
    let small : Machine := ⟨grammar, low⟩
    let large : Machine := ⟨grammar, high⟩
    (Overflows (small.derive goal tokens) ↔ Overflows (large.derive goal tokens) ∨
      ∃ time, low < (large.moment tokens goal time).state.stack.length) ∧
    (¬Overflows (small.derive goal tokens) → Gives (large.derive goal tokens)
      (small.derive goal tokens).result (small.derive goal tokens).after) ∧
    ∀ exceeded, (small.derive goal tokens).result = .error (.depthExceeded exceeded) →
      exceeded = ⟨low, (small.derive goal tokens).after.cursor,
          (small.derive goal tokens).after.symbols⟩ ∧
        exceeded.symbols.length = low ∧
        ∃ time, (∀ earlier < time, large.moment tokens goal earlier =
            small.moment tokens goal earlier) ∧
          (large.moment tokens goal time).state.cursor = (small.derive goal tokens).after.cursor ∧
          (large.moment tokens goal time).state.trace = (small.derive goal tokens).after.trace := by
  intro small large
  refine ⟨overflows_iff some le, derive_calm some le, fun exceeded deep => ?_⟩
  obtain ⟨time, stopped⟩ := moment_of_overflow small some deep
  obtain ⟨told, full⟩ := (moment_bounded small tokens goal time).told exceeded _ stopped
  refine ⟨told, ?_, ?_⟩
  · rw [told]
    simpa [State.symbols] using full
  · rcases moments_capped some le tokens goal time with together | ⟨last, _, together, parted⟩
    · refine ⟨time, fun earlier before => together earlier before.le, ?_⟩
      rw [together time (Nat.le_refl _), stopped]
      exact ⟨rfl, rfl⟩
    · obtain ⟨other, after, broken⟩ := parted.broken
      rw [← moment_succ] at broken
      have same := (overflows_of_moment small some broken).2
      refine ⟨last + 1, fun earlier before => together earlier (Nat.le_of_lt_succ before), ?_⟩
      rw [moment_succ, together last (Nat.le_refl _), parted.cursor, parted.trace, ← moment_succ,
        broken, same]
      exact ⟨rfl, rfl⟩

end Depth

/-- Two open brackets do not fit a stack of two. With three there is room for them, and the run
ends where the second is not closed. -/
theorem derive_capped_brackets :
    let tokens := Brackets.tokens ["a", "a"]
    ((Brackets.machine 2).derive "S" tokens).result = .error (.depthExceeded ⟨2, 2, ["S", "S"]⟩) ∧
      ((Brackets.machine 3).derive "S" tokens).result = .ok false ∧
      (∃ time, 2 < ((Brackets.machine 3).moment tokens "S" time).state.stack.length) ∧
      Gives ((Brackets.machine 4).derive "S" tokens) ((Brackets.machine 3).derive "S" tokens).result
        ((Brackets.machine 3).derive "S" tokens).after := by
  intro tokens
  have deep : ((Brackets.machine 2).derive "S" tokens).result =
      .error (.depthExceeded ⟨2, 2, ["S", "S"]⟩) := by cbv
  have answered : ((Brackets.machine 3).derive "S" tokens).result = .ok false := by cbv
  have calm : ¬Overflows ((Brackets.machine 3).derive "S" tokens) := by
    rintro ⟨exceeded, overflowed⟩
    cases overflowed.symm.trans answered
  have small := @derive_capped Brackets.grammar 2 3 (by decide) (by decide) tokens "S"
  have large := @derive_capped Brackets.grammar 3 4 (by decide) (by decide) tokens "S"
  exact ⟨deep, answered, (small.1.mp ⟨_, deep⟩).resolve_left calm, large.2.1 calm⟩

end Machine

end Descent
