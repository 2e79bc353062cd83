import Descent.Proofs.Halting
import Descent.Proofs.History
import Descent.Proofs.Recursion.Idle

/-! What the operations do to a state, said once.

All of them are made of a few edits, whatever the frames of the stack are, and of one more change
where the only frame there is finishes. An invariant of every history is kept by each of these.
What the state does not hold itself, and some invariants are about, is kept in a ledger beside it.
-/

set_option autoImplicit false

namespace Descent

/-- What cannot go on has the setback, and all else has none. -/
def Setback.ifFailed (setback : Setback) : Except Fault Bool → List Setback
  | .ok false => [setback]
  | _ => []

namespace Machine

/-- A state, its setbacks with the latest first, the markers of dropped frames, and whether a
frame has been taken off the stack whose marker was not there. -/
structure Ledger where
  state : State
  setbacks : List Setback
  dropped : List Marker
  missed : Bool

def misses {α : Type} : Except Fault α → Bool
  | .error fault => decide (fault = .missingMarker)
  | .ok _ => false

/-- The ledger after what ended so, with these setbacks. -/
def Ledger.next {α : Type} (ledger : Ledger) (result : Except Fault α) (after : State)
    (setbacks : List Setback) : Ledger :=
  ⟨after, setbacks ++ ledger.setbacks, ledger.dropped, misses result || ledger.missed⟩

/-- The ledger after an operation, if that does not bring new tokens. -/
def Ledger.operate (machine : Machine) (ledger : Ledger) (operation : Operation) : Ledger :=
  let operated := machine.operate ledger.state operation
  { ledger.next operated.result operated.after (operation.setbacks machine ledger.state) with
    dropped := operation.leaves ledger.state ledger.dropped }

theorem Ledger.next_map {α β : Type} (ledger : Ledger) (f : α → β) {result : Except Fault α}
    {after : State} {setbacks : List Setback} :
    ledger.next (result.map f) after setbacks = ledger.next result after setbacks := by
  cases result <;> rfl

theorem Ledger.next_next {α β : Type} (ledger : Ledger) (value : α) {result : Except Fault β}
    {middle after : State} {first second : List Setback} :
    (ledger.next (.ok value : Except Fault α) middle first).next result after second =
      ledger.next result after (second ++ first) := by
  unfold Ledger.next
  rw [List.append_assoc]
  rfl

/-- The frame has passed all elements of its production. -/
def Through (machine : Machine) (frame : Frame) : Prop :=
  ∃ production, machine.current? frame = some production ∧ production.length ≤ frame.element

def finished (state : State) (frame : Frame) : State :=
  { popped state frame [] with
    result := some (.branch frame.symbol frame.start state.cursor frame.children) }

/-- One change of a state that leaves the result alone. -/
inductive Edit (machine : Machine) (ledger : Ledger) : Ledger → Prop where
  | fail (symbols : List String) (expected : List Expectation) :
      Edit machine ledger { ledger with
        state := ledger.state.fail symbols expected
        setbacks := ⟨ledger.state.cursor, symbols, expected⟩ :: ledger.setbacks }
  | hold {frame other : Frame} {below : List Frame} (stack : ledger.state.stack = frame :: below)
      (alike : Alike frame other) (kept : other.production = frame.production) :
      Edit machine ledger { ledger with state := { ledger.state with stack := other :: below } }
  | select {frame : Frame} {below : List Frame} {production : Nat}
      (stack : ledger.state.stack = frame :: below)
      (listed : production < (machine.table frame.symbol).length) :
      Edit machine ledger { ledger with state := ledger.state.select frame below production }
  | shift {frame : Frame} {below : List Frame} {tokens : List Token} {token : Token}
      (stack : ledger.state.stack = frame :: below) (installed : ledger.state.tokens = some tokens)
      (there : tokens[ledger.state.cursor]? = some token) :
      Edit machine ledger { ledger with state := Machine.shift ledger.state token frame below }
  | push {symbol : String} (origin : Origin)
      (free : ledger.state.marker symbol ∉ ledger.state.markers)
      (room : ledger.state.stack.length < machine.maxDepth) :
      Edit machine ledger { ledger with
        state := entered ledger.state symbol origin ledger.state.stack }
  | pop {frame : Frame} {below : List Frame} (stack : ledger.state.stack = frame :: below)
      (held : frame.marker ∈ ledger.state.markers) :
      Edit machine ledger { ledger with state := popped ledger.state frame below }
  | drop {frame : Frame} {below : List Frame} (stack : ledger.state.stack = frame :: below) :
      Edit machine ledger { ledger with
        state := { ledger.state with stack := below }
        dropped := frame.marker :: ledger.dropped }
  | miss {frame : Frame} {below : List Frame} (stack : ledger.state.stack = frame :: below)
      (absent : frame.marker ∉ ledger.state.markers) :
      Edit machine ledger { ledger with
        state := { ledger.state with stack := below }
        missed := true }

/-- An edit, or the only frame there is gives its tree to the result. -/
inductive Change (machine : Machine) (ledger : Ledger) : Ledger → Prop where
  | edit {after : Ledger} (edit : machine.Edit ledger after) : Change machine ledger after
  | finish {frame : Frame} (alone : ledger.state.stack = [frame])
      (held : frame.marker ∈ ledger.state.markers) :
      Change machine ledger { ledger with state := finished ledger.state frame }

abbrev Edits (machine : Machine) : Ledger → Ledger → Prop := Relation.ReflTransGen machine.Edit

abbrev Changes (machine : Machine) : Ledger → Ledger → Prop := Relation.ReflTransGen machine.Change

structure Finishes (machine : Machine) (state : State) (frame : Frame) (result : Except Fault Bool)
    (after : State) : Prop where
  held : frame.marker ∈ state.markers
  through : machine.Through frame
  gives : result = .ok true ∧ after = finished state frame

section Moves

variable {machine : Machine} {ledger after : Ledger} {frame : Frame} {below : List Frame}

theorem Edits.changes (edits : machine.Edits ledger after) : machine.Changes ledger after :=
  edits.lift id fun _ _ => .edit

theorem push_cases (machine : Machine) (symbol : String) (origin : Origin) (state : State) :
    state.marker symbol ∈ state.markers ∧
        machine.push symbol origin state = ⟨.ok false, state, [.refused symbol state.cursor]⟩ ∨
      state.marker symbol ∉ state.markers ∧
        ((∃ exceeded, machine.push symbol origin state = .raise state (.depthExceeded exceeded)) ∨
          state.stack.length < machine.maxDepth ∧
            machine.push symbol origin state =
              .done (entered state symbol origin state.stack) true) := by
  unfold push
  dsimp only
  split
  · rename_i held
    exact .inl ⟨held, rfl⟩
  · rename_i free
    split
    · exact .inr ⟨free, .inl ⟨_, rfl⟩⟩
    · rename_i room
      exact .inr ⟨free, .inr ⟨Nat.lt_of_not_le room, rfl⟩⟩

theorem push_refused {symbol : String} {origin : Origin} {state : State} :
    (machine.push symbol origin state).result = .ok false ↔
      state.marker symbol ∈ state.markers := by
  rcases machine.push_cases symbol origin state with
    ⟨held, refused⟩ | ⟨free, ⟨_, full⟩ | ⟨_, pushed⟩⟩
  · simp [refused, held]
  · simp [full, free, Outcome.raise]
  · simp [pushed, free, Outcome.done]

theorem push_edits (machine : Machine) (symbol : String) (origin : Origin) (ledger : Ledger) :
    let pushed := machine.push symbol origin ledger.state
    machine.Edits ledger (ledger.next pushed.result pushed.after []) := by
  rcases machine.push_cases symbol origin ledger.state with
    ⟨_, refused⟩ | ⟨free, ⟨_, full⟩ | ⟨room, pushed⟩⟩
  · rw [refused]
    exact .refl
  · rw [full]
    exact .refl
  · rw [pushed]
    exact .single (.push origin free room)

theorem complete_edits (stack : ledger.state.stack = frame :: below) (setback : Setback) :
    let completed := complete ledger.state frame below
    machine.Edits ledger
        (ledger.next completed.result completed.after (setback.ifFailed completed.result)) ∨
      below = [] ∧ frame.marker ∈ ledger.state.markers ∧
        completed.result = .ok true ∧ completed.after = finished ledger.state frame := by
  unfold complete
  dsimp only
  split
  · rename_i held
    cases below with
    | nil => exact .inr ⟨rfl, held, rfl, rfl⟩
    | cons parent rest =>
      exact .inl (.tail (.single (.pop stack held)) (.hold rfl (.adopt _ _ parent) rfl))
  · rename_i absent
    exact .inl (.single (.miss stack absent))

theorem stuck_edits (stack : ledger.state.stack = frame :: below) (expected : List Expectation) :
    machine.Edits ledger (ledger.next (.ok false : Except Fault Bool)
      (stuck ledger.state frame below expected)
      [⟨ledger.state.cursor, ((frame :: below).map Frame.symbol).reverse, expected⟩]) :=
  .tail (.single (.hold stack (.refl frame) rfl)) (.fail _ expected)

def blame (machine : Machine) : Move → Option (List Expectation)
  | .stuck expected => some expected
  | .enter symbol _ => some (machine.expectations symbol)
  | _ => none

theorem blame_move {token : Option Token} {expected : List Expectation}
    (blamed : machine.blame (machine.move (machine.table frame.symbol) token frame) =
      some expected) : machine.wanted frame = expected := by
  have element : machine.element? frame =
      (frame.production.bind ((machine.table frame.symbol)[·]?)).bind (·[frame.element]?) := rfl
  revert blamed
  unfold wanted move
  rw [element]
  cases frame.production.bind ((machine.table frame.symbol)[·]?) with
  | none => exact Option.some.inj
  | some production =>
    rw [Option.bind_some]
    dsimp only
    rcases production[frame.element]? with _ | ((terminal | symbol) | (_ | (terminal | symbol)))
    · exact nofun
    · cases token with
      | none => exact Option.some.inj
      | some token =>
        dsimp only
        split
        · exact nofun
        · exact Option.some.inj
    · dsimp only
      split
      · exact Option.some.inj
      · exact Option.some.inj
      · exact nofun
    · exact nofun
    · cases token with
      | none => exact nofun
      | some token =>
        dsimp only
        split <;> exact nofun
    · exact nofun

theorem move_complete {token : Option Token}
    (completes : machine.move (machine.table frame.symbol) token frame = .complete) :
    machine.Through frame := by
  unfold move at completes
  cases current : frame.production.bind ((machine.table frame.symbol)[·]?) with
  | none =>
    rw [current] at completes
    cases completes
  | some production =>
    cases found : production[frame.element]? with
    | none => exact ⟨production, current, List.getElem?_eq_none_iff.mp found⟩
    | some element =>
      simp only [current, found] at completes
      rcases element with (_ | _) | (_ | _ | _)
      all_goals
        simp only at completes
        repeat' split at completes
        all_goals cases completes

/-- A move is made of edits, unless the frame is through and there is none below. -/
theorem perform_edits (machine : Machine) (ledger : Ledger)
    (stack : ledger.state.stack = frame :: below) {tokens : List Token}
    (installed : ledger.state.tokens = some tokens) :
    let token := tokens[ledger.state.cursor]?
    let performed := machine.perform ledger.state frame below
      (machine.move (machine.table frame.symbol) token frame)
    let setback : Setback :=
      ⟨ledger.state.cursor, ((frame :: below).map Frame.symbol).reverse, machine.wanted frame⟩
    machine.Edits ledger
        (ledger.next performed.result performed.after (setback.ifFailed performed.result)) ∨
      below = [] ∧ machine.Finishes ledger.state frame performed.result performed.after := by
  intro token performed setback
  have found := machine.stands_of_move (machine.table frame.symbol) token frame
  have blamed (expected : List Expectation) :
      machine.blame (machine.move (machine.table frame.symbol) token frame) = some expected →
        machine.wanted frame = expected := blame_move
  have through : machine.move (machine.table frame.symbol) token frame = .complete →
      machine.Through frame := move_complete
  -- What is known of the move outlives it, so that the move can be taken by cases.
  unfold performed setback
  generalize machine.move (machine.table frame.symbol) token frame = move at found blamed through
  cases move with
  | complete =>
    refine (complete_edits stack _).imp_right ?_
    exact fun ⟨nothing, held, gives⟩ => ⟨nothing, held, through rfl, gives⟩
  | shift token => exact .inl (.single (.shift stack installed found))
  | leave => exact .inl (.single (.hold stack (.advance frame) rfl))
  | enter symbol origin =>
    left
    have slot : machine.Edit ledger { ledger with state := { ledger.state with
        stack := { frame with progressed := none } :: below } } :=
      .hold stack ⟨rfl, rfl, rfl, rfl⟩ rfl
    rw [blamed _ rfl]
    unfold perform
    dsimp only
    rcases machine.push_cases symbol origin { ledger.state with
        stack := { frame with progressed := none } :: below } with
      ⟨_, refused⟩ | ⟨free, ⟨_, full⟩ | ⟨room, pushed⟩⟩
    · rw [refused]
      exact .head slot (stuck_edits rfl _)
    · rw [full]
      exact .single slot
    · rw [pushed]
      exact .head slot (.single (.push origin free room))
  | attempt symbol =>
    left
    have passed : machine.Edit ledger { ledger with state := { ledger.state with
        stack := frame.advance :: below } } := .hold stack (.advance frame) rfl
    unfold perform
    dsimp only
    rcases machine.push_cases symbol .optional { ledger.state with
        stack := frame.advance :: below } with
      ⟨_, refused⟩ | ⟨free, ⟨_, full⟩ | ⟨room, pushed⟩⟩
    · rw [refused]
      exact .single passed
    · rw [full]
      exact .single passed
    · rw [pushed]
      exact .head passed (.single (.push .optional free room))
  | stuck expected =>
    left
    rw [blamed expected rfl]
    exact stuck_edits stack expected

theorem predicted_through {token : Option Token} {production : Nat}
    (predicted : machine.predicted? (machine.table frame.symbol) token frame = some production) :
    ¬machine.Through (frame.select production) := by
  rintro ⟨elements, current, short⟩
  obtain ⟨_, element, rest, _, _, found, _⟩ := exists_of_predicted predicted
  have listed : (machine.table frame.symbol)[production]? = some elements := current
  cases found.symm.trans listed
  exact absurd short (Nat.not_succ_le_zero _)

theorem act_edits (stack : ledger.state.stack = frame :: below) {tokens : List Token}
    (installed : ledger.state.tokens = some tokens) :
    let token := tokens[ledger.state.cursor]?
    let acted := machine.act (machine.table frame.symbol) token ledger.state frame below
    let setback : Setback :=
      ⟨ledger.state.cursor, ledger.state.symbols, machine.wanted (machine.informed token frame)⟩
    machine.Edits ledger (ledger.next acted.result acted.after (setback.ifFailed acted.result)) ∨
      below = [] ∧ machine.Finishes ledger.state frame acted.result acted.after := by
  unfold State.symbols act informed
  dsimp only
  rw [stack]
  cases predicted : machine.predicted? (machine.table frame.symbol) tokens[ledger.state.cursor]?
      frame with
  | none => exact machine.perform_edits ledger stack installed
  | some production =>
    have chosen : machine.Edit ledger { ledger with
        state := ledger.state.select frame below production } :=
      .select stack (predicted?_eq_some predicted).2
    have performed := machine.perform_edits
      { ledger with state := ledger.state.select frame below production } rfl installed
    rcases performed with edits | ⟨_, finishes⟩
    · exact .inl (.head chosen edits)
    -- A production that was predicted a moment ago is not through.
    · exact absurd finishes.through (predicted_through predicted)

end Moves

section Calls

variable {machine : Machine} {ledger : Ledger}

theorem stepSetbacks_eq {state : State} {frame : Frame} {below : List Frame} {tokens : List Token}
    (stack : state.stack = frame :: below) (installed : state.tokens = some tokens) :
    machine.stepSetbacks state = Setback.ifFailed ⟨state.cursor, state.symbols,
      machine.wanted (machine.informed tokens[state.cursor]? frame)⟩ (machine.step state).result := by
  unfold stepSetbacks Setback.ifFailed
  rw [stack, installed]
  rcases (machine.step state).result with _ | (_ | _) <;> rfl

theorem raise_edits {fault : Fault}
    (raised : Gives (machine.step ledger.state) (.error fault) ledger.state)
    (other : misses (.error fault : Except Fault Bool) = false) :
    machine.Edits ledger (ledger.next (machine.step ledger.state).result
      (machine.step ledger.state).after (machine.stepSetbacks ledger.state)) := by
  obtain ⟨result, after⟩ := raised
  rw [stepSetbacks_eq_nil (by rw [result]; nofun), result, after]
  unfold Ledger.next
  rw [other]
  exact .refl

/-- A step is made of edits, or the only frame there is finishes. -/
theorem step_edits (machine : Machine) (ledger : Ledger) :
    let stepped := machine.step ledger.state
    machine.Edits ledger
        (ledger.next stepped.result stepped.after (machine.stepSetbacks ledger.state)) ∨
      ∃ frame, ledger.state.stack = [frame] ∧
        machine.Finishes ledger.state frame stepped.result stepped.after := by
  cases stack : ledger.state.stack with
  | nil => exact .inl (raise_edits (step_empty stack) rfl)
  | cons frame below =>
    by_cases known : machine.Knows frame.symbol
    · cases installed : ledger.state.tokens with
      | none =>
        have raised : Gives (machine.step ledger.state) (.error .notInitialized) ledger.state := by
          unfold step
          rw [stack]
          simp only [productionsOf_eq known, installed]
          exact ⟨rfl, rfl⟩
        exact .inl (raise_edits raised rfl)
      | some tokens =>
        obtain ⟨result, after⟩ := step_act stack known installed
        dsimp only
        rw [stepSetbacks_eq stack installed, result, after]
        refine (act_edits stack installed).imp_right ?_
        exact fun ⟨nothing, finishes⟩ => ⟨frame, by rw [nothing], finishes⟩
    · exact .inl (raise_edits (step_unknown stack known) rfl)

theorem step_changes (machine : Machine) (ledger : Ledger) :
    machine.Changes ledger (ledger.next (machine.step ledger.state).result
      (machine.step ledger.state).after (machine.stepSetbacks ledger.state)) := by
  rcases machine.step_edits ledger with edits | ⟨frame, alone, finishes⟩
  · exact edits.changes
  · obtain ⟨result, after⟩ := finishes.gives
    rw [stepSetbacks_eq_nil (by rw [result]; nofun), result, after]
    exact .single (.finish alone finishes.held)

/-- The frames that a backtrack goes through are on the stack when it comes to them. -/
theorem unwind_edits (machine : Machine) (ledger : Ledger) (frames : List Frame) :
    let unwound := machine.unwind ledger.state frames
    machine.Edits { ledger with state := { ledger.state with stack := frames } }
      (ledger.next unwound.result unwound.after []) := by
  induction frames generalizing ledger with
  | nil => exact .refl
  | cons frame below ih =>
    unfold unwind
    split
    · exact .refl
    · rename_i known
      obtain rfl := machine.table_eq known
      dsimp only
      split
      · rename_i more
        exact .single (.select rfl more.2)
      · split
        · rename_i held
          have gone : machine.Edit { ledger with state := { ledger.state with stack := frame :: below } }
            { ledger with state := popped ledger.state frame below } := .pop rfl held
          split
          · split
            · exact .single gone
            · exact .tail (.single gone) (.hold rfl (.advance _) rfl)
            · exact .single gone
          · exact .head gone (ih { ledger with
              state := { ledger.state with markers := ledger.state.markers.erase frame.marker } })
        · rename_i absent
          exact .single (.miss rfl absent)

theorem backtrack_edits (machine : Machine) (ledger : Ledger) :
    let back := machine.backtrack ledger.state
    machine.Edits ledger (ledger.next back.result back.after []) :=
  machine.unwind_edits ledger ledger.state.stack

theorem round_changes (machine : Machine) (ledger : Ledger) :
    machine.Changes ledger (ledger.next (machine.round ledger.state).result
      (machine.round ledger.state).after (machine.stepSetbacks ledger.state)) := by
  have stepped := machine.step_changes ledger
  by_cases failed : (machine.step ledger.state).result = .ok false
  · obtain ⟨result, after⟩ := round_backtrack ⟨failed, rfl⟩
    rw [failed] at stepped
    rw [result, after]
    exact stepped.trans (machine.backtrack_edits (ledger.next _ _ _)).changes
  · obtain ⟨result, after⟩ := round_step (.self (machine.step ledger.state)) failed
    rw [result, after]
    exact stepped

theorem ending_changes (machine : Machine) (ledger : Ledger) :
    machine.Changes ledger (ledger.next (machine.ending ledger.state).1
      (machine.ending ledger.state).2 (machine.loopSetbacks ledger.state)) := by
  generalize now : ledger.state = state
  induction state using machine.ending_induct generalizing ledger with
  | empty state stack ended =>
    rw [ended, loopSetbacks_empty stack, ← now]
    exact .refl
  | again state filled went ended ih =>
    subst now
    -- The setbacks of the rounds to come are in front of those of this one.
    have made := machine.round_changes ledger
    rw [went] at made
    have later := ih (ledger.next (.ok true : Except Fault Bool) (machine.round ledger.state).after
      (machine.stepSetbacks ledger.state)) rfl
    rw [ended, loopSetbacks_round filled, went, ← ledger.next_next true]
    exact made.trans later
  | last state filled lost ended =>
    subst now
    have made := machine.round_changes ledger
    rw [lost] at made
    rw [ended, loopSetbacks_round filled, lost]
    exact made
  | broken state fault filled failed ended =>
    subst now
    have made := machine.round_changes ledger
    rw [failed] at made
    rw [ended, loopSetbacks_round filled, failed]
    exact made

theorem verdict_edits (machine : Machine) (tokens : List Token) (ledger : Ledger) :
    machine.Edits ledger (ledger.next (verdict tokens ledger.state).result
      (verdict tokens ledger.state).after (leftovers tokens ledger.state)) := by
  unfold verdict leftovers
  cases ledger.state.result with
  | none => exact .refl
  | some tree =>
    dsimp only
    split
    · exact .single (.fail _ _)
    · exact .refl

theorem run_changes (machine : Machine) (ledger : Ledger) :
    machine.Changes ledger (ledger.next (machine.run ledger.state).result
      (machine.run ledger.state).after (machine.runSetbacks ledger.state)) := by
  unfold runSetbacks
  cases installed : ledger.state.tokens with
  | none =>
    unfold run
    rw [installed]
    exact .refl
  | some tokens =>
    have loop := machine.ending_changes ledger
    obtain ⟨result, after⟩ := machine.run_ending installed
    rw [result, after]
    rcases ended : machine.ending ledger.state with ⟨fault | _, final⟩
    · rw [ended] at loop
      exact loop
    · rw [ended] at loop
      have judged := machine.verdict_edits tokens (ledger.next (.ok ()) final
        (machine.loopSetbacks ledger.state))
      rw [ledger.next_next ()] at judged
      exact loop.trans judged.changes

theorem pop_edits (machine : Machine) (ledger : Ledger) :
    machine.Edits ledger (ledger.next (pop ledger.state).result (pop ledger.state).after []) := by
  unfold pop
  split
  · exact .refl
  · rename_i stack
    split
    · rename_i held
      exact .single (.pop stack held)
    · rename_i absent
      exact .single (.miss stack absent)

theorem drop_edits (machine : Machine) (ledger : Ledger) :
    machine.Edits ledger { ledger.next (drop ledger.state).result (drop ledger.state).after [] with
      dropped := (ledger.state.stack.head?.map Frame.marker).toList ++ ledger.dropped } := by
  unfold drop
  cases stack : ledger.state.stack with
  | nil => exact .refl
  | cons frame below => exact .single (.drop stack)

theorem pushGoal_edits (machine : Machine) (symbol : String) (ledger : Ledger) :
    let pushed := machine.pushGoal symbol ledger.state
    machine.Edits ledger (ledger.next pushed.result pushed.after []) := by
  unfold pushGoal
  split
  · exact .refl
  · dsimp only
    rw [ledger.next_map]
    exact machine.push_edits symbol .goal ledger

/-- Every operation is made of changes, unless it brings new tokens. -/
theorem operate_changes (machine : Machine) (ledger : Ledger) {operation : Operation}
    (resumes : ∀ tokens, operation ≠ .install tokens) :
    machine.Changes ledger (ledger.operate machine operation) := by
  have silently {α : Type} {outcome : Outcome α} {setbacks : List Setback} {dropped : List Marker}
      (changes : machine.Changes ledger { ledger.next outcome.result outcome.after setbacks with
        dropped := dropped }) :
      machine.Changes ledger { ledger.next outcome.silent.result outcome.silent.after setbacks with
        dropped := dropped } := by
    unfold Outcome.silent
    rw [ledger.next_map]
    exact changes
  cases operation with
  | install tokens => exact absurd rfl (resumes tokens)
  | pushGoal symbol => exact (machine.pushGoal_edits symbol ledger).changes
  | push symbol origin => exact silently (machine.push_edits symbol origin ledger).changes
  | pop => exact silently (machine.pop_edits ledger).changes
  | drop => exact silently (machine.drop_edits ledger).changes
  | step => exact silently (machine.step_changes ledger)
  | backtrack => exact silently (machine.backtrack_edits ledger).changes
  | run => exact silently (machine.run_changes ledger)

/-- One tick of the loops is made of edits, or the only frame there is finishes. -/
theorem tick_edits (machine : Machine) (phase : Phase) :
    (∃ after, machine.Edits ⟨phase.state, [], [], false⟩ after ∧
        after.state = (machine.tick phase).state) ∨
      ∃ last frame, phase = .stepping last ∧ last.stack = [frame] ∧ machine.Through frame ∧
        machine.tick phase = .stepping (finished last frame) := by
  cases phase with
  | stepping state =>
    by_cases empty : state.stack.isEmpty = true
    · simp only [tick, if_pos empty]
      exact .inl ⟨_, .refl, rfl⟩
    · simp only [tick, if_neg empty]
      rcases machine.step_edits ⟨state, [], [], false⟩ with edits | ⟨frame, alone, finishes⟩
      · refine .inl ⟨_, edits, ?_⟩
        dsimp only [Ledger.next]
        split <;> rfl
      · obtain ⟨result, after⟩ := finishes.gives
        rw [result, after]
        exact .inr ⟨state, frame, rfl, alone, finishes.through, rfl⟩
  | backtracking state =>
    left
    unfold tick
    dsimp only
    rcases machine.pass_backtrack state with decided | ⟨frame, below, stack, held, passed, _⟩
    · refine ⟨_, machine.backtrack_edits ⟨state, [], [], false⟩, ?_⟩
      rw [decided, resumed_state]
      rfl
    · rw [passed]
      exact ⟨_, .single (.pop stack held), rfl⟩
  | stopped result state => exact .inl ⟨_, .refl, rfl⟩

end Calls

section Invariants

variable {machine : Machine} {before after : Ledger}

theorem Edits.keep {P : Ledger → Prop}
    (kept : ∀ {before after}, machine.Edit before after → P before → P after)
    (edits : machine.Edits before after) (held : P before) : P after := by
  induction edits with
  | refl => exact held
  | tail _ edit ih => exact kept edit ih

theorem Changes.keep {P : Ledger → Prop}
    (kept : ∀ {before after}, machine.Change before after → P before → P after)
    (changes : machine.Changes before after) (held : P before) : P after := by
  induction changes with
  | refl => exact held
  | tail _ change ih => exact kept change ih

/-- What holds of a blank ledger, of one with new tokens only, and after each change, holds of the
ledger of every history. -/
theorem history_keep {P : Ledger → Prop} (blank : P ⟨.blank, [], [], false⟩)
    (installed : ∀ tokens, P ⟨.initial tokens, [], [], false⟩)
    (kept : ∀ {before after}, machine.Change before after → P before → P after)
    (history : List Operation) :
    ∃ missed, P ⟨machine.after history, machine.setbacks history, machine.dropped history, missed⟩ := by
  induction history with
  | nil => exact ⟨false, blank⟩
  | cons operation earlier ih =>
    obtain ⟨missed, held⟩ := ih
    by_cases resumes : ∀ tokens, operation ≠ .install tokens
    · rw [setbacks_cons resumes]
      exact ⟨_, (machine.operate_changes _ resumes).keep kept held⟩
    -- New tokens come with a new ledger, whatever was missed before.
    · push Not at resumes
      obtain ⟨tokens, rfl⟩ := resumes
      exact ⟨false, installed tokens⟩

/-- Tokens are never given back. -/
theorem Change.forward (change : machine.Change before after) :
    before.state.cursor ≤ after.state.cursor := by
  cases change with
  | finish => exact Nat.le_refl _
  | edit edit =>
    cases edit with
    | fail symbols expected =>
      obtain ⟨failure, same⟩ := fail_eq before.state symbols expected
      rw [same]
    | shift => exact Nat.le_succ _
    | _ => exact Nat.le_refl _

theorem Changes.forward (changes : machine.Changes before after) :
    before.state.cursor ≤ after.state.cursor :=
  changes.keep (P := fun ledger => before.state.cursor ≤ ledger.state.cursor)
    (fun change le => le.trans change.forward) (Nat.le_refl _)

theorem ending_cursor (machine : Machine) (state : State) :
    state.cursor ≤ (machine.ending state).2.cursor :=
  (machine.ending_changes ⟨state, [], [], false⟩).forward

end Invariants

end Machine

end Descent
