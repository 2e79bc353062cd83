import Mathlib
import Descent.Proofs.Bare
import Descent.Proofs.Depth
import Descent.Proofs.Recursion.Idle
import Descent.Proofs.Resumption

/-! A machine that does not predict.

It tries the productions of every frame from the first. Where each production begins with
something that is needed, it loses no more than time: what a prediction skips would have failed
before it consumed a token, so that the machine that predicts comes to the same end.
-/

set_option autoImplicit false

namespace Descent

/-- Every production begins with something that is needed. -/
def Grammar.Headed (grammar : Grammar) : Prop :=
  ∀ {head production}, grammar.Lists head production →
    ∃ symbol rest, production = .required symbol :: rest

namespace Machine

namespace Blind

/-- A step without a prediction, and without its log. A frame that has no production fails. -/
def step (machine : Machine) (state : State) : Outcome Bool :=
  match state.stack with
  | [] => .raise state .emptyStack
  | frame :: below =>
    match machine.grammar.productionsOf frame.symbol, state.tokens with
    | .error unknown, _ => .raise state (.unknownSymbol unknown)
    | .ok _, none => .raise state .notInitialized
    | .ok productions, some tokens =>
      machine.perform state frame below (machine.move productions tokens[state.cursor]? frame)

def round (machine : Machine) (state : State) : Outcome Bool :=
  let stepped := step machine state
  match stepped.result with
  | .ok false => machine.backtrack stepped.after
  | _ => stepped

section Measure

variable {machine : Machine} {state : State}

theorem step_ok {value : Bool} (stepped : (step machine state).result = .ok value) :
    ∃ frame below tokens, state.stack = frame :: below ∧ state.tokens = some tokens ∧
      step machine state = machine.perform state frame below
        (machine.move (machine.table frame.symbol) tokens[state.cursor]? frame) := by
  unfold step at stepped ⊢
  cases stack : state.stack with
  | nil =>
    rw [stack] at stepped
    cases stepped
  | cons frame below =>
    rw [stack] at stepped
    dsimp only at stepped ⊢
    cases known : machine.grammar.productionsOf frame.symbol with
    | error unknown =>
      rw [known] at stepped
      cases stepped
    | ok productions =>
      cases installed : state.tokens with
      | none =>
        rw [known, installed] at stepped
        cases stepped
      | some tokens =>
        refine ⟨frame, below, tokens, rfl, rfl, ?_⟩
        rw [machine.table_eq known]

theorem eases_of_round (ok : (round machine state).result = .ok true) :
    machine.Eases state (round machine state).after := by
  unfold round at ok ⊢
  dsimp only at ok ⊢
  split at ok
  · rename_i failed
    obtain ⟨frame, below, tokens, stack, installed, same⟩ := step_ok failed
    rw [same] at failed ok ⊢
    have fails := machine.perform_fails failed
    obtain ⟨sameTokens, sameCursor, lighter⟩ := machine.unwind_lightens ok
    refine Relieves.eases machine ⟨sameTokens.trans fails.tokens,
      Or.inr ⟨sameCursor.trans fails.cursor, ?_⟩⟩
    rw [fails.cursor] at lighter
    unfold burden at lighter ⊢
    rw [stack]
    exact Nat.lt_of_lt_of_le lighter fails.floor
  · obtain ⟨frame, below, tokens, stack, installed, same⟩ := step_ok ok
    rw [same] at ok ⊢
    have relieved := machine.perform_relieves installed ok
    rw [← stack] at relieved
    exact relieved.eases

end Measure

def ending (machine : Machine) (state : State) : Except Fault Unit × State :=
  if state.stack.isEmpty then (.ok (), state)
  else
    match outcome : round machine state with
    | ⟨.ok true, after, _⟩ =>
      have : machine.Eases state after := by
        have eased : machine.Eases state (round machine state).after :=
          eases_of_round (by rw [outcome])
        rwa [outcome] at eased
      ending machine after
    | ⟨.ok false, after, _⟩ => (.ok (), after)
    | ⟨.error fault, after, _⟩ => (.error fault, after)
termination_by (remaining state, machine.burden state)
decreasing_by assumption

def derive (machine : Machine) (goal : String) (tokens : List Token) : Outcome Bool :=
  let pushed := machine.pushGoal goal (.initial tokens)
  match pushed.result with
  | .ok () => concluded tokens (ending machine pushed.after).1 (ending machine pushed.after).2
  | .error fault => { pushed with result := .error fault }

def afterwards (machine : Machine) (stuck : State) : Except Fault Unit × State :=
  match (machine.backtrack stuck).result with
  | .ok true => ending machine (machine.backtrack stuck).after
  | .ok false => (.ok (), (machine.backtrack stuck).after)
  | .error fault => (.error fault, (machine.backtrack stuck).after)

section Loop

variable {machine : Machine} {state stuck after : State}

theorem ending_empty (stack : state.stack = []) : ending machine state = (.ok (), state) := by
  rw [ending, if_pos (by rw [stack]; rfl)]

theorem ending_round (filled : state.stack ≠ []) :
    ending machine state =
      match (round machine state).result with
      | .ok true => ending machine (round machine state).after
      | .ok false => (.ok (), (round machine state).after)
      | .error fault => (.error fault, (round machine state).after) := by
  rw [ending, if_neg (by simpa using filled)]
  split
  · rename_i found
    simp only [found]
  · rename_i found
    simp only [found]
  · rename_i found
    simp only [found]

theorem round_step {result : Except Fault Bool} (stepped : Gives (step machine state) result after)
    (decided : result ≠ .ok false) : Gives (round machine state) result after := by
  unfold round
  dsimp only
  split
  · rename_i failed
    exact absurd (stepped.1.symm.trans failed) decided
  · exact stepped

theorem ending_step (filled : state.stack ≠ [])
    (stepped : Gives (step machine state) (.ok true) after) :
    ending machine state = ending machine after := by
  obtain ⟨result, reached⟩ := round_step stepped nofun
  rw [ending_round filled, result, reached]

theorem ending_stuck (filled : state.stack ≠ [])
    (stepped : Gives (step machine state) (.ok false) stuck) :
    ending machine state = afterwards machine stuck := by
  have same : round machine state = machine.backtrack stuck := by
    unfold round
    dsimp only
    rw [stepped.1, stepped.2]
  rw [ending_round filled, same]
  rfl

theorem ending_fault {fault : Fault} (filled : state.stack ≠ [])
    (stepped : Gives (step machine state) (.error fault) after) :
    ending machine state = (.error fault, after) := by
  obtain ⟨result, reached⟩ := round_step stepped nofun
  rw [ending_round filled, result, reached]

theorem afterwards_true (found : Gives (machine.backtrack stuck) (.ok true) after) :
    afterwards machine stuck = ending machine after := by
  unfold afterwards
  rw [found.1, found.2]

theorem afterwards_congr (below : Gives (machine.backtrack stuck)
    (machine.backtrack after).result (machine.backtrack after).after) :
    afterwards machine stuck = afterwards machine after := by
  unfold afterwards
  rw [below.1, below.2]

end Loop

end Blind

section Skipped

variable {machine : Machine} {tokens : List Token} {goal : String} {state other : State}
  {frame : Frame} {below : List Frame}

theorem Standing.alike (standing : machine.Standing tokens goal state)
    (same : other.bare = state.bare) : machine.Standing tokens goal other :=
  standing.congr (show other.bare.tokens = state.bare.tokens by rw [same])
    (show other.bare.cursor = state.bare.cursor by rw [same])
    (show other.bare.stack = state.bare.stack by rw [same])
    (show other.bare.markers = state.bare.markers by rw [same])

/-- Without a prediction the two machines take the same step. -/
theorem Standing.blind_step (standing : machine.Standing tokens goal state)
    (stack : state.stack = frame :: below)
    (unpredicted : machine.predicted? (machine.table frame.symbol) tokens[state.cursor]? frame =
      none) :
    Gives (Blind.step machine state) (machine.step state).result (machine.step state).after := by
  have stepped := standing.step_perform stack unpredicted rfl
  unfold Blind.step
  rw [stack]
  simp only [productionsOf_eq (standing.top_upright stack).known, standing.installed]
  exact ⟨stepped.1.symm, stepped.2.symm⟩

theorem Standing.blind_unselected (standing : machine.Standing tokens goal state)
    (stack : state.stack = frame :: below) (unselected : frame.production = none) :
    Gives (Blind.step machine state) (.ok false)
      (state.fail state.symbols (machine.expectations frame.symbol)) := by
  unfold Blind.step
  rw [stack]
  simp only [productionsOf_eq (standing.top_upright stack).known, standing.installed, move,
    unselected, Option.bind_none]
  refine ⟨rfl, ?_⟩
  show stuck state frame below _ = _
  unfold stuck
  rw [← stack]

def Unpredicted (machine : Machine) (tokens : List Token) (cursor : Nat)
    (production : Production) : Prop :=
  ∀ token, tokens[cursor]? = some token → machine.predicts production token = false

theorem Unpredicted.of_predicted {cursor production : Nat}
    (predicted : machine.predicted? (machine.table frame.symbol) tokens[cursor]? frame =
      some production) {index : Nat} (listed : index < (machine.table frame.symbol).length)
    (before : index < production) :
    machine.Unpredicted tokens cursor (machine.table frame.symbol)[index] := by
  intro token there
  unfold predicted? at predicted
  rw [there] at predicted
  split at predicted
  · rename_i same
    cases same
    obtain ⟨_, _, first⟩ := List.findIdx?_eq_some_iff_getElem.mp predicted
    exact Bool.eq_false_iff.mpr (first index before)
  · cases predicted

theorem Unpredicted.called {cursor : Nat} {symbol : NonTerminal} {rest production : Production}
    (unpredicted : machine.Unpredicted tokens cursor (.required (.nonTerminal symbol) :: rest))
    (listed : production ∈ machine.table symbol.name) :
    machine.Unpredicted tokens cursor production := by
  intro token there
  refine Bool.eq_false_iff.mpr fun predicted => ?_
  obtain ⟨element, others, rfl, accepted⟩ := exists_of_predicts predicted
  have lists : machine.grammar.Lists symbol.name ([] ++ element :: others) := mem_table.mp listed
  have begins := Grammar.accepts_of_vanishes lists nofun accepted
  have refused : (machine.grammar.opening symbol.name).first.accepts token = false :=
    unpredicted token there
  rw [refused] at begins
  cases begins

def Sinks (ended : Except Fault Unit × State) : Prop :=
  ∃ exceeded, ended.1 = .error (.depthExceeded exceeded)

/-- At this height, a production that does not begin with the next token comes to nothing: it
sinks, or a step fails where it was selected. -/
def Lapses (machine : Machine) (tokens : List Token) (goal : String) (height : Nat) : Prop :=
  ∀ {state frame below index}, machine.Standing tokens goal state → state.stack = frame :: below →
    below.length = height → frame.start = state.cursor →
    (listed : index < (machine.table frame.symbol).length) →
    machine.Unpredicted tokens state.cursor (machine.table frame.symbol)[index] →
    Sinks (Blind.ending machine (state.select frame below index)) ∨
      ∃ stuck, stuck.bare = (state.select frame below index).bare ∧
        Blind.ending machine (state.select frame below index) = Blind.afterwards machine stuck

structure Passed (frame held : Frame) (count : Nat) : Prop where
  alike : Alike frame held
  next : held.nextProduction = count

theorem Passed.retried {held : Frame} {stuck : State} {count : Nat}
    (passed : Passed frame held count) (stands : machine.Standing tokens goal stuck)
    (same : stuck.bare = { state.bare with stack := held :: below })
    (unmoved : frame.start = state.cursor) (more : count < (machine.table frame.symbol).length) :
    Blind.afterwards machine stuck = Blind.ending machine (stuck.select held below count) ∧
      (stuck.select held below count).bare = (state.select frame below count).bare := by
  have there : stuck.cursor = state.cursor :=
    (congrArg State.cursor same : stuck.bare.cursor = _)
  have top : stuck.stack = held :: below := (congrArg State.stack same : stuck.bare.stack = _)
  have still : held.start = stuck.cursor := (passed.alike.start.trans unmoved).trans there.symm
  rw [← passed.next] at more
  rw [← passed.alike.symbol] at more
  have retried := stands.backtrack_retry top still more
  rw [passed.next] at retried
  refine ⟨Blind.afterwards_true retried, ?_⟩
  show ({ stuck.bare with stack := held.select count :: below } : State) =
    { state.bare with stack := frame.select count :: below }
  rw [same, passed.alike.select_eq]

theorem Lapses.passes (lapses : machine.Lapses tokens goal below.length)
    (standing : machine.Standing tokens goal state) (stack : state.stack = frame :: below)
    (unselected : frame.production = none) {count : Nat}
    (few : count ≤ (machine.table frame.symbol).length)
    (unpredicted : ∀ index (listed : index < (machine.table frame.symbol).length), index < count →
      machine.Unpredicted tokens state.cursor (machine.table frame.symbol)[index]) :
    Sinks (Blind.ending machine state) ∨
      ∃ held stuck, Passed frame held count ∧
        stuck.bare = { state.bare with stack := held :: below } ∧
        machine.Standing tokens goal stuck ∧
        Blind.ending machine state = Blind.afterwards machine stuck := by
  have unmoved := (standing.top_poised stack).unmoved unselected
  have filled : state.stack ≠ [] := by rw [stack]; exact List.cons_ne_nil _ _
  induction count with
  | zero =>
    right
    -- The first step fails for want of a production, before any is passed.
    have stepped := standing.blind_unselected stack unselected
    refine ⟨frame, _, ⟨.refl frame, ?_⟩, ?_, standing.fail _ _,
      Blind.ending_stuck filled stepped⟩
    · unfold Frame.nextProduction
      rw [unselected]
    · rw [fail_bare, ← stack]
      rfl
  | succ count ih =>
    rcases ih (Nat.le_of_succ_le few) fun index listed before =>
      unpredicted index listed (before.trans (Nat.lt_succ_self _)) with
      sinks | ⟨held, stuck, passed, same, stands, ended⟩
    · exact .inl sinks
    · obtain ⟨retried, again⟩ := passed.retried stands same unmoved few
      have there : stuck.cursor = state.cursor :=
        (congrArg State.cursor same : stuck.bare.cursor = _)
      have top : stuck.stack = held :: below := (congrArg State.stack same : stuck.bare.stack = _)
      have alike := passed.alike
      have more : count < (machine.table held.symbol).length := by
        rw [alike.symbol]
        exact few
      have refused := unpredicted count few (Nat.lt_succ_self _)
      rw [ended, retried]
      refine (lapses stands top rfl (by rw [alike.start, unmoved, there]) more ?_).imp_right ?_
      · rw [there]
        simpa only [alike.symbol] using refused
      · rintro ⟨lost, left, rest⟩
        refine ⟨held.select count, lost, ⟨alike.trans (.select held count), rfl⟩, ?_,
          (stands.select top more).alike left, rest⟩
        rw [left, again, alike.select_eq]
        rfl

/-- A nonterminal that does not begin with the next token is pushed, passes all its productions
and goes. -/
theorem Lapses.called {symbol : NonTerminal} {rest : Production}
    (lapses : machine.Lapses tokens goal (frame :: below).length)
    (standing : machine.Standing tokens goal state) (stack : state.stack = frame :: below)
    (slot : machine.element? frame = some (.required (.nonTerminal symbol)))
    (pending : frame.progressed = none)
    (unpredicted : machine.Unpredicted tokens state.cursor
      (.required (.nonTerminal symbol) :: rest)) :
    Sinks (Blind.ending machine state) ∨
      ∃ stuck, stuck.bare = state.bare ∧
        Blind.ending machine state = Blind.afterwards machine stuck := by
  have filled : state.stack ≠ [] := by rw [stack]; exact List.cons_ne_nil _ _
  have selected : frame.production ≠ none := selected_of_element slot
  have stepped {result : Except Fault Bool} {after : State}
      (gives : Gives (machine.step state) result after) :
      Gives (Blind.step machine state) result after := by
    obtain ⟨answer, left⟩ := standing.blind_step stack (predicted?_selected selected _)
    exact ⟨answer.trans gives.1, left.trans gives.2⟩
  have waiting : { frame with progressed := none } = frame := by rw [← pending]
  by_cases room : state.stack.length < machine.maxDepth
  · have enters := standing.step_enter stack slot (.inl ⟨pending, rfl⟩) room
    have entering := standing.turn (.enter stack slot (.inl ⟨pending, rfl⟩) room)
    rw [waiting] at enters entering
    rw [Blind.ending_step filled (stepped enters)]
    refine (lapses.passes entering rfl rfl (Nat.le_refl _) fun index listed _ =>
      unpredicted.called (List.getElem_mem listed)).imp_right ?_
    rintro ⟨held, stuck, ⟨alike, next⟩, same, stands, ended⟩
    -- The child has no production left, and its parent needs it.
    have top : stuck.stack = held :: frame :: below :=
      (congrArg State.stack same : stuck.bare.stack = _)
    have markers : stuck.markers = held.marker :: state.markers := by
      rw [alike.marker]
      exact (congrArg State.markers same : stuck.bare.markers = _)
    have under := stands.backtrack_below top (.inr ⟨by rw [next, alike.symbol],
      by rw [alike.origin]; rfl⟩)
    refine ⟨_, ?_, ended.trans (Blind.afterwards_congr under)⟩
    show ({ stuck.bare with
      stack := frame :: below
      markers := stuck.markers.erase held.marker } : State) = state.bare
    rw [same, markers, List.erase_cons_head, ← stack]
    rfl
  · have full := standing.step_enter_full stack slot (by rw [pending]; nofun)
      (Nat.le_of_not_lt room)
    exact .inl ⟨_, congrArg Prod.fst (Blind.ending_fault filled (stepped full))⟩

theorem lapses (headed : machine.grammar.Headed) (height : Nat) :
    machine.Lapses tokens goal height := by
  -- From a full stack down: what a production calls for lies one higher.
  induction left : machine.maxDepth - height using Nat.strongRecOn generalizing height with
  | ind left ih =>
    subst left
    intro state frame below index standing stack at_ unmoved listed unpredicted
    have fits : height < machine.maxDepth := by
      have depth := standing.depth
      rw [stack, List.length_cons, at_] at depth
      exact depth
    have selected := standing.select stack listed
    obtain ⟨symbol, rest, same⟩ := headed (mem_table.mp (List.getElem_mem listed))
    have slot : machine.element? (frame.select index) = some (.required symbol) := by
      refine Option.bind_eq_some_iff.mpr ⟨_, List.getElem?_eq_getElem listed, ?_⟩
      rw [same]
      rfl
    rw [same] at unpredicted
    cases symbol with
    | terminal terminal =>
      have mismatch : Mismatch terminal tokens[state.cursor]? := unpredicted
      have stepped := selected.step_mismatch rfl slot mismatch
      have blind := selected.blind_step rfl (predicted?_selected (selected_of_element slot) _)
      exact .inr ⟨_, fail_bare _ _, Blind.ending_stuck (List.cons_ne_nil _ _)
        ⟨blind.1.trans stepped.1, blind.2.trans stepped.2⟩⟩
    | nonTerminal symbol =>
      have higher : machine.Lapses tokens goal (frame.select index :: below).length := by
        rw [List.length_cons, at_]
        exact ih _ (by omega) _ rfl
      exact higher.called selected rfl slot rfl unpredicted

end Skipped

section Together

variable {machine : Machine} {tokens : List Token} {goal : String} {state other : State}

theorem Gives.bare {outcome same : Outcome Bool}
    (gives : Gives outcome same.result same.after) : outcome.bare = same.bare := by
  rw [Outcome.bare_eq_bare, gives.1, gives.2]
  exact ⟨rfl, rfl⟩

theorem Blind.round_alike (same : (Blind.step machine other).bare = (machine.step state).bare) :
    (Blind.round machine other).bare = (machine.round state).bare := by
  obtain ⟨answer, left⟩ := Outcome.bare_eq_bare.mp same
  unfold Blind.round Machine.round
  dsimp only
  rw [answer]
  rcases result : (machine.step state).result with fault | _ | _
  · exact same
  · exact backtrack_alike left
  · exact same

/-- For each round of the machine that predicts, the other comes to one that is like it, or
sinks on the way. -/
theorem Standing.round_blind (headed : machine.grammar.Headed)
    (standing : machine.Standing tokens goal state) (filled : state.stack ≠ [])
    (same : other.bare = state.bare) :
    Sinks (Blind.ending machine other) ∨
      ∃ held, held.stack ≠ [] ∧ Blind.ending machine other = Blind.ending machine held ∧
        (Blind.round machine held).bare = (machine.round state).bare := by
  obtain ⟨frame, below, stack⟩ := List.exists_cons_of_ne_nil filled
  have stands := standing.alike same
  have top : other.stack = frame :: below := (State.stack_of_bare same).trans stack
  have there : other.cursor = state.cursor := State.cursor_of_bare same
  cases predicted : machine.predicted? (machine.table frame.symbol) tokens[state.cursor]? frame with
  | none =>
    have blind := stands.blind_step top (by rw [there]; exact predicted)
    refine .inr ⟨other, by rw [top]; exact List.cons_ne_nil _ _, rfl, Blind.round_alike ?_⟩
    rw [blind.bare]
    exact step_alike same
  | some production =>
    obtain ⟨unselected, listed⟩ := predicted?_eq_some predicted
    have unmoved := (standing.top_poised stack).unmoved unselected
    have lapse : machine.Lapses tokens goal below.length := lapses headed _
    refine (lapse.passes stands top unselected listed.le
      fun index listed before => ?_).imp_right ?_
    · rw [there]
      exact .of_predicted predicted listed before
    · rintro ⟨held, stuck, passed, left, stuck_stands, ended⟩
      rw [same] at left
      obtain ⟨retried, again⟩ := passed.retried stuck_stands left unmoved listed
      have chosen := (standing.select stack listed).alike again
      have selected : (held.select production).production ≠ none := nofun
      have blind := chosen.blind_step rfl (predicted?_selected selected _)
      have stepped := standing.step_predicted stack predicted listed
      refine ⟨_, List.cons_ne_nil _ _, ended.trans retried, Blind.round_alike ?_⟩
      rw [blind.bare, stepped.bare]
      exact step_alike again

/-- Unless the machine that does not predict sinks, both end alike. -/
theorem Standing.ending_blind (headed : machine.grammar.Headed)
    (standing : machine.Standing tokens goal state) (same : other.bare = state.bare) :
    Sinks (Blind.ending machine other) ∨
      (Blind.ending machine other).1 = (machine.ending state).1 ∧
        (Blind.ending machine other).2.bare = (machine.ending state).2.bare := by
  induction state using machine.ending_induct generalizing other with
  | empty state stack ended =>
    have top : other.stack = [] := (State.stack_of_bare same).trans stack
    rw [ended, Blind.ending_empty top]
    exact .inr ⟨rfl, same⟩
  | again state filled went ended ih =>
    obtain ⟨turns, _⟩ := standing.round_turns filled
    rcases standing.round_blind headed filled same with sinks | ⟨held, held_filled, rest, round⟩
    · exact .inl sinks
    · obtain ⟨answer, left⟩ := Outcome.bare_eq_bare.mp round
      rw [rest, Blind.ending_round held_filled, answer.trans went, ended]
      exact ih (standing.turns turns) left
  | last state filled lost ended =>
    rcases standing.round_blind headed filled same with sinks | ⟨held, held_filled, rest, round⟩
    · exact .inl sinks
    · obtain ⟨answer, left⟩ := Outcome.bare_eq_bare.mp round
      rw [rest, Blind.ending_round held_filled, answer.trans lost, ended]
      exact .inr ⟨rfl, left⟩
  | broken state fault filled failed ended =>
    rcases standing.round_blind headed filled same with sinks | ⟨held, held_filled, rest, round⟩
    · exact .inl sinks
    · obtain ⟨answer, left⟩ := Outcome.bare_eq_bare.mp round
      rw [rest, Blind.ending_round held_filled, answer.trans failed, ended]
      exact .inr ⟨rfl, left⟩

theorem Blind.ending_unknown {frame : Frame} {below : List Frame}
    (stack : state.stack = frame :: below) (unknown : ¬machine.Knows frame.symbol) :
    Blind.ending machine state = machine.ending state := by
  have filled : state.stack ≠ [] := by rw [stack]; exact List.cons_ne_nil _ _
  have stepped : Gives (Blind.step machine state)
      (.error (.unknownSymbol (machine.grammar.unknown frame.symbol))) state := by
    unfold Blind.step
    rw [stack]
    simp only [Grammar.productionsOf_unknown unknown]
    exact ⟨rfl, rfl⟩
  rw [Blind.ending_fault filled stepped, Machine.ending_fault filled (step_unknown stack unknown)]

theorem concluded_alike (same : other.bare = state.bare) (result : Except Fault Unit) :
    (concluded tokens result other).bare = (concluded tokens result state).bare := by
  cases result with
  | error fault => exact Outcome.bare_eq_bare.mpr ⟨rfl, same⟩
  | ok =>
    have tree : other.result = state.result := (congrArg State.result same : other.bare.result = _)
    have there : other.cursor = state.cursor := State.cursor_of_bare same
    unfold concluded verdict
    dsimp only
    rw [tree, there]
    cases state.result with
    | none => exact Outcome.bare_eq_bare.mpr ⟨rfl, same⟩
    | some tree =>
      dsimp only
      split
      · refine Outcome.bare_eq_bare.mpr ⟨rfl, ?_⟩
        exact (fail_bare _ _).trans (same.trans (fail_bare _ _).symm)
      · exact Outcome.bare_eq_bare.mpr ⟨rfl, same⟩

theorem ending_goal_blind (headed : machine.grammar.Headed) (room : 0 < machine.maxDepth)
    (pushed : (machine.pushGoal goal (.initial tokens)).after = state) :
    Sinks (Blind.ending machine state) ∨
      (Blind.ending machine state).1 = (machine.ending state).1 ∧
        (Blind.ending machine state).2.bare = (machine.ending state).2.bare := by
  by_cases known : machine.Knows goal
  · have standing : machine.Standing tokens goal state := pushed ▸ standing_goal known
    exact standing.ending_blind headed rfl
  · have stack : state.stack = [fresh goal .goal 0 []] := by
      rw [← pushed, (pushGoal_room room).2]
      rfl
    rw [Blind.ending_unknown stack known]
    exact .inr ⟨rfl, rfl⟩

/-- Where every production begins with something that is needed, a prediction saves time and
nothing else. Unless it is too deep without one, a run comes to the same answer, the same tree and
the same place. -/
theorem derive_blind (headed : machine.grammar.Headed)
    (calm : ¬Overflows (Blind.derive machine goal tokens)) :
    ¬Overflows (machine.derive goal tokens) ∧
      report (machine.derive goal tokens) = report (Blind.derive machine goal tokens) := by
  rcases Nat.eq_zero_or_pos machine.maxDepth with full | room
  · refine absurd ⟨⟨machine.maxDepth, 0, []⟩, ?_⟩ calm
    unfold Blind.derive
    dsimp only
    rw [(pushGoal_full full).1]
  · have blind : Blind.derive machine goal tokens = concluded tokens
        (Blind.ending machine (machine.pushGoal goal (.initial tokens)).after).1
        (Blind.ending machine (machine.pushGoal goal (.initial tokens)).after).2 := by
      unfold Blind.derive
      dsimp only
      rw [(pushGoal_room room).1]
    have derived : (machine.derive goal tokens).bare = (concluded tokens
        (machine.ending (machine.pushGoal goal (.initial tokens)).after).1
        (machine.ending (machine.pushGoal goal (.initial tokens)).after).2).bare :=
      (derive_ending machine room rfl).bare
    rw [blind] at calm ⊢
    rcases ending_goal_blind headed room rfl with ⟨exceeded, deep⟩ | ⟨answer, left⟩
    · refine absurd ⟨exceeded, ?_⟩ calm
      rw [deep]
      rfl
    · rw [← answer, ← concluded_alike left] at derived
      refine ⟨fun ⟨exceeded, deep⟩ => calm ⟨exceeded, ?_⟩, ?_⟩
      · exact (congrArg Outcome.result derived.symm).trans deep
      · exact (congrArg report derived : report (machine.derive goal tokens).bare = _)

end Together

end Machine

theorem Detours.headed : Detours.grammar.Headed := by
  rintro head production ⟨rule, member, -, listed⟩
  simp only [grammar, rules, List.mem_cons, List.not_mem_nil, or_false] at member
  rcases member with rfl | rfl <;>
    · simp only [List.mem_cons, List.not_mem_nil, or_false] at listed
      rcases listed with rfl | rfl <;> exact ⟨_, _, rfl⟩

/-- Without a prediction both the "b" and the "d" are tried, and the "d" is found. A stack of one
is too small to try a `T` for an "a", while the prediction does not try it. -/
theorem Machine.derive_blind_detours :
    let tokens := Brackets.tokens ["d", "c"]
    ¬Overflows (Blind.derive (Detours.machine 2) "S" tokens) ∧
      ¬Overflows ((Detours.machine 2).derive "S" tokens) ∧
      report ((Detours.machine 2).derive "S" tokens) =
        report (Blind.derive (Detours.machine 2) "S" tokens) ∧
      (Blind.derive (Detours.machine 2) "S" tokens).result = .ok true ∧
      Overflows (Blind.derive (Detours.machine 1) "S" (Brackets.tokens ["a"])) ∧
      ((Detours.machine 1).derive "S" (Brackets.tokens ["a"])).result = .ok true := by
  intro tokens
  have answered : (Blind.derive (Detours.machine 2) "S" tokens).result = .ok true := by cbv
  have calm : ¬Overflows (Blind.derive (Detours.machine 2) "S" tokens) := by
    rintro ⟨exceeded, deep⟩
    cases deep.symm.trans answered
  obtain ⟨shallow, same⟩ := derive_blind Detours.headed calm
  exact ⟨calm, shallow, same, answered, ⟨⟨1, 0, ["S"]⟩, by cbv⟩, by cbv⟩

end Descent
