import Mathlib
import Descent.Proofs.Beginnings
import Descent.Proofs.Blind
import Descent.Proofs.Trials

/-! Which production a frame commits to.

A frame that consumes a token keeps its production. That is the first one, from the predicted
one on, that takes the token by itself. A prediction goes by first elements, so that it can pass
over a production that begins with something empty and takes the token behind it.
-/

set_option autoImplicit false

namespace Descent

namespace Machine

/-- The run from the goal pushes the frame, and before the frame goes it has consumed a token and
works on the production. -/
def Commits (machine : Machine) (tokens : List Token) (goal : String) (state : State)
    (frame : Frame) (below : List Frame) (production : Nat) : Prop :=
  ∃ time span,
    machine.moment tokens goal time = .stepping state ∧
    state.stack = frame :: below ∧ frame.production = none ∧
    (∀ passed ≤ span,
      below.length < (machine.moment tokens goal (time + passed)).state.stack.length) ∧
    state.cursor < (machine.moment tokens goal (time + span)).state.cursor ∧
    Holds below.length production (machine.moment tokens goal (time + span)).state

/-- The prediction passes over the earlier production. What begins with the token there comes
after elements that can be empty, and the first of these does not begin with it. -/
def Overlooked (machine : Machine) (tokens : List Token) (state : State) (frame : Frame)
    (earlier production : Nat) : Prop :=
  ∃ token predicted first front element rest,
    tokens[state.cursor]? = some token ∧
    machine.predicted? (machine.table frame.symbol) (some token) frame = some predicted ∧
    earlier < predicted ∧ predicted ≤ production ∧
    (machine.table frame.symbol)[earlier]? = some (first :: front ++ element :: rest) ∧
    machine.grammar.Vanishes (first :: front) ∧
    (machine.grammar.openings.ofElement first).first.accepts token = false ∧
    (machine.grammar.openings.ofElement element).first.accepts token = true

/-! What runs from a goal go through is what steps and backtracks lead to. -/

namespace Phase

/-- The state was reached from the goal, or a backtrack on the way decides what one from a state
that was reached would. -/
def Due (machine : Machine) (tokens : List Token) (goal : String) : Phase → Prop
  | .stepping state => machine.Reached tokens goal state
  | .backtracking state => ∃ stuck, machine.Reached tokens goal stuck ∧
      resumed (machine.backtrack state) = resumed (machine.backtrack stuck)
  | .stopped _ _ => True

end Phase

section Due

variable {machine : Machine} {tokens : List Token} {goal : String} {state : State} {phase : Phase}

theorem Reached.resumed_due (reached : machine.Reached tokens goal state) :
    (resumed (machine.backtrack state)).Due machine tokens goal := by
  unfold resumed
  split
  · exact reached.backtrack
  · exact trivial
  · exact trivial

theorem tick_due (due : phase.Due machine tokens goal) :
    (machine.tick phase).Due machine tokens goal := by
  cases phase with
  | stopped result state => exact trivial
  | stepping state =>
    have stepped : machine.Reached tokens goal (machine.step state).after := .step due
    unfold tick
    dsimp only
    split
    · exact trivial
    · split
      · exact stepped
      · exact ⟨_, stepped, rfl⟩
      · exact trivial
  | backtracking state =>
    obtain ⟨stuck, reached, same⟩ := due
    show (machine.pass state).Due machine tokens goal
    rcases machine.pass_backtrack state with decided | ⟨frame, below, _, _, passed, under⟩
    · rw [decided, same]
      exact reached.resumed_due
    · rw [passed]
      exact ⟨stuck, reached, under.symm.trans same⟩

theorem moment_due (machine : Machine) (tokens : List Token) (goal : String) (time : Nat) :
    (machine.moment tokens goal time).Due machine tokens goal := by
  induction time with
  | zero => exact .goal
  | succ time ih =>
    rw [moment_succ]
    exact tick_due ih

end Due

/-- From the foremost production on, none in front of this one takes the next token. -/
structure Vain (machine : Machine) (tokens : List Token) (state : State) (frame : Frame)
    (below : List Frame) (production : Nat) : Prop where
  foremost : machine.foremost frame.symbol tokens[state.cursor]? ≤ production
  fails : ∀ earlier, machine.foremost frame.symbol tokens[state.cursor]? ≤ earlier →
    earlier < production → ¬machine.Takes state frame below earlier

/-- Where a frame is as long as it stays: it was just pushed, its first step failed, a production
of it is on trial, or it has consumed a token. -/
inductive Stage (machine : Machine) (tokens : List Token) (goal : String) (state : State)
    (frame : Frame) (below : List Frame) : Phase → Prop where
  | pushed : Stage machine tokens goal state frame below (.stepping state)
  | refused {stuck : State} (same : stuck.bare = state.bare)
      (unpredicted : machine.predicted? (machine.table frame.symbol) tokens[state.cursor]? frame =
        none) :
      Stage machine tokens goal state frame below (.backtracking stuck)
  | trying {phase : Phase} {production count : Nat}
      (vain : machine.Vain tokens state frame below production)
      (trying : machine.Trying tokens goal state frame below production count)
      (same : phase.bare = (machine.trial state frame below production count).bare) :
      Stage machine tokens goal state frame below phase
  | moved {phase : Phase} {production : Nat}
      (vain : machine.Vain tokens state frame below production)
      (takes : machine.Takes state frame below production)
      (keeps : Keeps frame below production phase.state)
      (moved : state.cursor < phase.state.cursor) :
      Stage machine tokens goal state frame below phase

section Stages

variable {machine : Machine} {tokens : List Token} {goal : String} {state stuck : State}
  {frame : Frame} {below : List Frame} {production count : Nat} {phase : Phase}

theorem Vain.refl (same : machine.foremost frame.symbol tokens[state.cursor]? = production) :
    machine.Vain tokens state frame below production :=
  ⟨same.le, fun _ from_ before => absurd before (Nat.not_lt_of_le (same ▸ from_))⟩

theorem Vain.next (vain : machine.Vain tokens state frame below production)
    (fails : ¬machine.Takes state frame below production) :
    machine.Vain tokens state frame below (production + 1) := by
  refine ⟨Nat.le_succ_of_le vain.foremost, fun earlier from_ before => ?_⟩
  rcases Nat.lt_succ_iff_lt_or_eq.mp before with before | rfl
  · exact vain.fails earlier from_ before
  · exact fails

theorem Keeps.congr {other : State} (keeps : Keeps frame below production state)
    (same : other.stack = state.stack) : Keeps frame below production other := by
  obtain ⟨above, held, stack, kept⟩ := keeps
  exact ⟨above, held, same.trans stack, kept⟩

/-- The frame goes on with the production that it tries, or with the next. -/
theorem Stage.tick_trying (pushed : machine.Pushed tokens goal state frame below)
    (vain : machine.Vain tokens state frame below production)
    (trying : machine.Trying tokens goal state frame below production count)
    (same : phase.bare = (machine.trial state frame below production count).bare)
    (stays : below.length < (machine.tick phase).state.stack.length) :
    machine.Stage tokens goal state frame below (machine.tick phase) := by
  have next : (machine.tick phase).bare = _ := tick_alike same
  rw [← trial_succ] at next
  obtain ⟨stack, cursor⟩ := state_alike next
  cases trying.tick pushed with
  | gone short =>
    rw [stack] at stays
    exact absurd short (Nat.not_le_of_lt stays)
  | goes trying => exact .trying vain trying next
  | moves takes tried moved =>
    exact .moved vain takes (tried.keeps.congr stack) (moved.trans_eq cursor.symm)
  | fails fails more again =>
    exact .trying (vain.next fails) (pushed.trying more) (next.trans again)

theorem Stage.tick_pushed (pushed : machine.Pushed tokens goal state frame below)
    (stays : below.length < (machine.tick (.stepping state)).state.stack.length) :
    machine.Stage tokens goal state frame below (machine.tick (.stepping state)) := by
  have stack := pushed.stack
  have open_ : ¬state.stack.isEmpty = true := by
    rw [stack]
    nofun
  cases predicted : machine.predicted? (machine.table frame.symbol) tokens[state.cursor]? frame with
  | none =>
    obtain ⟨result, after⟩ := pushed.standing.step_unselected stack pushed.unselected predicted
    have stops : machine.tick (.stepping state) = .backtracking (machine.step state).after := by
      simp only [tick, if_neg open_, result]
    rw [stops, after]
    exact .refused (fail_bare _ _) predicted
  | some index =>
    obtain ⟨_, listed⟩ := predicted?_eq_some predicted
    obtain ⟨result, after⟩ := pushed.standing.step_predicted stack predicted listed
    -- The choice takes no tick of its own.
    have chosen : machine.tick (.stepping state) =
        machine.tick (.stepping (state.select frame below index)) := by
      simp only [tick, if_neg open_, result, after]
      rfl
    have first : machine.foremost frame.symbol tokens[state.cursor]? = index := by
      rw [foremost_eq pushed.unselected, predicted]
      rfl
    rw [chosen] at stays ⊢
    exact tick_trying pushed (.refl first) (pushed.trying listed) rfl stays

theorem Stage.tick_refused (pushed : machine.Pushed tokens goal state frame below)
    (same : stuck.bare = state.bare)
    (unpredicted : machine.predicted? (machine.table frame.symbol) tokens[state.cursor]? frame =
      none) :
    machine.Stage tokens goal state frame below (machine.tick (.backtracking stuck)) := by
  have standing := pushed.standing.alike same
  have stack : stuck.stack = frame :: below := (State.stack_of_bare same).trans pushed.stack
  have cursor : stuck.cursor = state.cursor := State.cursor_of_bare same
  have next : frame.nextProduction = 0 := by
    unfold Frame.nextProduction
    rw [pushed.unselected]
  have listed : 0 < (machine.table frame.symbol).length :=
    List.length_pos_iff.mpr (table_ne_nil (standing.top_upright stack).known)
  have passed := standing.pass_retry stack (pushed.unmoved.trans cursor.symm)
    (by rw [next]; exact listed)
  rw [next] at passed
  have first : machine.foremost frame.symbol tokens[state.cursor]? = 0 := by
    rw [foremost_eq pushed.unselected, unpredicted]
    rfl
  show machine.Stage tokens goal state frame below (machine.pass stuck)
  rw [passed]
  refine .trying (.refl first) (pushed.trying listed) ?_
  show Phase.stepping { stuck.bare with stack := frame.select 0 :: below } =
    .stepping { state.bare with stack := frame.select 0 :: below }
  rw [same]

theorem Stage.tick (pushed : machine.Pushed tokens goal state frame below)
    (stage : machine.Stage tokens goal state frame below phase)
    (stays : below.length < (machine.tick phase).state.stack.length) :
    machine.Stage tokens goal state frame below (machine.tick phase) := by
  cases stage with
  | pushed => exact tick_pushed pushed stays
  | refused same unpredicted => exact tick_refused pushed same unpredicted
  | trying vain trying same => exact tick_trying pushed vain trying same stays
  | moved vain takes keeps moved =>
    have kept := (keeps.tick_moved machine (pushed.unmoved.trans_lt moved)).resolve_left
      (Nat.not_le_of_lt stays)
    exact .moved vain takes kept (moved.trans_le (tick_cursor phase))

theorem Pushed.stage (pushed : machine.Pushed tokens goal state frame below) {span : Nat}
    (stays : ∀ passed ≤ span,
      below.length < (machine.tick^[passed] (.stepping state)).state.stack.length) :
    machine.Stage tokens goal state frame below (machine.tick^[span] (.stepping state)) := by
  induction span with
  | zero => exact .pushed
  | succ span ih =>
    have stage := ih fun passed within => stays passed (Nat.le_succ_of_le within)
    have last := stays (span + 1) (Nat.le_refl _)
    rw [Function.iterate_succ_apply'] at last ⊢
    exact stage.tick pushed last

theorem Stage.committed (stage : machine.Stage tokens goal state frame below phase)
    (moved : state.cursor < phase.state.cursor)
    (holds : Holds below.length production phase.state) :
    machine.Vain tokens state frame below production ∧
      machine.Takes state frame below production := by
  cases stage with
  | pushed => exact absurd moved (Nat.lt_irrefl _)
  | @refused stuck same =>
    have still : stuck.cursor = state.cursor := State.cursor_of_bare same
    exact absurd moved (Nat.not_lt_of_le still.le)
  | trying _ trying same =>
    have still := (state_alike same).2.trans trying.unmoved
    exact absurd moved (Nat.not_lt_of_le still.le)
  | moved vain takes keeps =>
    obtain rfl := holds.unique keeps.holds
    exact ⟨vain, takes⟩

end Stages

section Commits

variable {machine : Machine} {tokens : List Token} {goal : String} {state : State}
  {frame : Frame} {below : List Frame} {production earlier : Nat}

/-- What takes the token and is not predicted has the token behind something empty. -/
theorem Takes.overlooked (pushed : machine.Pushed tokens goal state frame below) {predicted : Nat}
    (prediction : machine.predicted? (machine.table frame.symbol) tokens[state.cursor]? frame =
      some predicted) (before : earlier < predicted) (le : predicted ≤ production)
    (takes : machine.Takes state frame below earlier) :
    machine.Overlooked tokens state frame earlier production := by
  have listed := before.trans (predicted?_eq_some prediction).2
  obtain ⟨after, ⟨lawful, keeps⟩, moved⟩ := takes.tried pushed listed
  obtain ⟨held, member, alike, selected⟩ := keeps.exists_mem
  have started := lawful.standing.started lawful.growing lawful.covering held member
  unfold Started at started
  rw [alike.start, pushed.unmoved] at started
  obtain ⟨elements, token, current, there, front, element, rest, rfl, vanishes, accepted⟩ :=
    started moved
  have found : (machine.table frame.symbol)[earlier]? = some (front ++ element :: rest) := by
    unfold current? at current
    rwa [selected, alike.symbol] at current
  have refused := Unpredicted.of_predicted prediction listed before token there
  rw [(List.getElem?_eq_some_iff.mp found).2] at refused
  rw [there] at prediction
  cases front with
  | nil =>
    rw [List.nil_append, predicts_cons, accepted] at refused
    cases refused
  | cons first front =>
    rw [List.cons_append, predicts_cons] at refused
    exact ⟨token, predicted, first, front, element, rest, there, prediction, before, le, found,
      vanishes, refused, accepted⟩

theorem Reached.ticks_unknown (unknown : ¬machine.Knows goal)
    (reached : machine.Reached tokens goal state) (stack : state.stack = frame :: below)
    (count : Nat) : (machine.tick^[count] (.stepping state)).state.cursor = state.cursor := by
  have symbol : frame.symbol = goal := by
    rw [reached.unchanged (inert_goal unknown)] at stack
    revert stack
    refine pushGoal_cases (fun _ => nofun) fun _ stack => ?_
    rw [← (List.cons.inj stack).1]
    rfl
  rw [← symbol] at unknown
  have stepped := step_unknown stack unknown
  cases count with
  | zero => rfl
  | succ count =>
    have stops : machine.tick (.stepping state) =
        .stopped (.error (.unknownSymbol (machine.grammar.unknown frame.symbol))) state := by
      simp only [tick, stack, List.isEmpty_cons, stepped.1, stepped.2]
      rfl
    rw [Function.iterate_succ_apply, stops, ticks_stopped]
    rfl

/-- A frame that consumes a token does so with a production that takes the token by itself. An
earlier production that takes it as well was passed over by the prediction, and takes it behind
something that can be empty. -/
theorem commits_ordered (commits : machine.Commits tokens goal state frame below production) :
    machine.Takes state frame below production ∧
      ∀ earlier < production, machine.Takes state frame below earlier →
        machine.Overlooked tokens state frame earlier production := by
  obtain ⟨time, span, here, stack, unselected, stays, moved, holds⟩ := commits
  have later (passed : Nat) : machine.moment tokens goal (time + passed) =
      machine.tick^[passed] (.stepping state) := by
    rw [← here, Nat.add_comm]
    exact Function.iterate_add_apply _ _ _ _
  have reached : machine.Reached tokens goal state := by
    have due := machine.moment_due tokens goal time
    rwa [here] at due
  simp only [later] at stays moved holds
  by_cases known : machine.Knows goal
  · have pushed : machine.Pushed tokens goal state frame below :=
      ⟨reached.lawful known, stack, unselected⟩
    obtain ⟨vain, takes⟩ := (pushed.stage stays).committed moved holds
    refine ⟨takes, fun earlier before also => ?_⟩
    -- From the foremost production on all were tried, so that this one is in front of it.
    have skipped : earlier < machine.foremost frame.symbol tokens[state.cursor]? :=
      Nat.lt_of_not_le fun from_ => vain.fails earlier from_ before also
    have foremost := vain.foremost
    rw [foremost_eq unselected] at skipped foremost
    cases prediction :
        machine.predicted? (machine.table frame.symbol) tokens[state.cursor]? frame with
    | none =>
      rw [prediction] at skipped
      exact absurd skipped (Nat.not_lt_zero _)
    | some predicted =>
      rw [prediction] at skipped foremost
      exact also.overlooked pushed prediction skipped foremost
  · rw [reached.ticks_unknown known stack] at moved
    exact absurd moved (Nat.lt_irrefl _)

end Commits

end Machine

/-! Shortcuts are taken by a prediction: `S` is a "b", perhaps with an "a" in front, or a "b" and
a "c". The second begins with a "b", and the first with an "a" that need not be there.
-/

namespace Shortcuts

def location : Location := ⟨"shortcuts", 1⟩

def terminal (text : String) : Terminal := .of (.lexeme text) none location

def symbol : NonTerminal := ⟨0, "S", location⟩

def rules : List Definition :=
  [⟨symbol, [[.optional (some (.terminal (terminal "a"))), .required (.terminal (terminal "b"))],
      [.required (.terminal (terminal "b")), .required (.terminal (terminal "c"))]], by decide⟩]

def grammar : Grammar where
  name := "shortcuts"
  start := symbol
  rules := rules
  openings := OpeningTable.ofRules rules
  start_mem := by decide
  closed := by
    intro rule member called mentioned
    simp only [rules, List.mem_cons, List.not_mem_nil, or_false] at member
    subst member
    revert called
    decide
  names_distinct := by decide
  openings_eq := rfl

def machine : Machine := ⟨grammar, 1⟩

def tokens : List Token := Brackets.tokens ["b"]

def goal : State := (machine.pushGoal "S" (.initial tokens)).after

def frame : Frame := Machine.fresh "S" .goal 0 []

theorem commits : machine.Commits tokens "S" goal frame [] 1 :=
  ⟨0, 1, rfl, rfl, rfl, by decide, by decide, rfl⟩

theorem takes : machine.Takes goal frame [] 0 := ⟨2, by decide, by decide⟩

end Shortcuts

open Shortcuts in
/-- The first production takes the "b" and is passed over, and the run misses the "c" of the
second. -/
theorem Machine.commits_not_first :
    Shortcuts.machine.Commits tokens "S" goal frame [] 1 ∧
      ¬(Shortcuts.machine.Takes goal frame [] 1 ∧
        ∀ earlier < 1, ¬Shortcuts.machine.Takes goal frame [] earlier) ∧
      (Shortcuts.machine.derive "S" tokens).result = .ok false :=
  ⟨commits, fun first => first.2 0 Nat.zero_lt_one takes, by cbv⟩

open Shortcuts in
/-- The second production takes the "b" as well, and the first begins with what can be empty. -/
theorem Machine.commits_ordered_shortcuts :
    Shortcuts.machine.Commits tokens "S" goal frame [] 1 ∧
      Shortcuts.machine.Takes goal frame [] 1 ∧
      Shortcuts.machine.Overlooked tokens goal frame 0 1 := by
  obtain ⟨committed, overlooked⟩ := commits_ordered commits
  exact ⟨commits, committed, overlooked 0 Nat.zero_lt_one takes⟩

end Descent
