import Descent.Proofs.Recursion
import Descent.Proofs.Stack.Ending

/-! The loop of a run meets the recursion at every element of a production.

From a state in which a frame stands at an element, the loop goes on as from a state in
which the frame has passed it, or as from a backtrack of the frame, or it ends at once.
What lies below the frame has no say.
-/

set_option autoImplicit false

namespace Descent

namespace Machine

def path (below : List Frame) : List String := (below.map Frame.symbol).reverse

/-- How the loop goes on from a state, by the answer that the recursion gives. What is
lost where it began can be tried in another way; what is lost later takes the whole
stack with it. -/
inductive Meets (machine : Machine) (tokens : List Token) (goal : String) (state : State)
    (start : Nat) {Value : Type} (won : Value → State → Prop) (lost : State → Prop) :
    Answer tokens Value → Prop where
  | derived {value : Value} {stop : Spot tokens} {after : State}
      (standing : machine.Standing tokens goal after)
      (ending : machine.ending state = machine.ending after) (cursor : after.cursor = stop)
      (result : after.result = state.result) (achieved : won value after) :
      Meets machine tokens goal state start won lost (.derived value stop)
  | lost {spot : Spot tokens} {after : State} (standing : machine.Standing tokens goal after)
      (ending : machine.ending state = machine.afterwards after) (cursor : after.cursor = spot)
      (result : after.result = state.result) (unmoved : spot.val = start) (left : lost after) :
      Meets machine tokens goal state start won lost (.lost spot)
  | hopeless {spot : Spot tokens} {after : State}
      (ending : machine.ending state = (.ok (), after)) (cursor : after.cursor = spot)
      (result : after.result = state.result) (beyond : start < spot.val) :
      Meets machine tokens goal state start won lost (.lost spot)
  | overflow {exceeded : DepthExceeded} {after : State}
      (ending : machine.ending state = (.error (.depthExceeded exceeded), after))
      (cursor : after.cursor = exceeded.cursor) (result : after.result = state.result) :
      Meets machine tokens goal state start won lost (.overflow exceeded)

namespace Meets

variable {machine : Machine} {tokens : List Token} {goal : String} {state after : State}
  {start : Nat} {Value Other : Type} {won : Value → State → Prop} {lost : State → Prop}
  {answer : Answer tokens Value}

theorem before (ending : machine.ending state = machine.ending after)
    (result : after.result = state.result)
    (meets : machine.Meets tokens goal after start won lost answer) :
    machine.Meets tokens goal state start won lost answer := by
  cases meets with
  | derived standing later cursor same won =>
    exact .derived standing (ending.trans later) cursor (same.trans result) won
  | lost standing later cursor same unmoved lost =>
    exact .lost standing (ending.trans later) cursor (same.trans result) unmoved lost
  | hopeless later cursor same beyond =>
    exact .hopeless (ending.trans later) cursor (same.trans result) beyond
  | overflow later cursor same => exact .overflow (ending.trans later) cursor (same.trans result)

theorem follow {then_won : Other → State → Prop} {next : Value → Spot tokens → Answer tokens Other}
    (meets : machine.Meets tokens goal state start won lost answer)
    (rest : ∀ {value} {stop : Spot tokens} {after}, machine.Standing tokens goal after →
      after.cursor = stop → won value after →
        machine.Meets tokens goal after start then_won lost (next value stop)) :
    machine.Meets tokens goal state start then_won lost (answer.follow next) := by
  cases meets with
  | derived standing ending cursor result won =>
    exact (rest standing cursor won).before ending result
  | lost standing ending cursor result unmoved lost =>
    exact .lost standing ending cursor result unmoved lost
  | hopeless ending cursor result beyond => exact .hopeless ending cursor result beyond
  | overflow ending cursor result => exact .overflow ending cursor result

theorem otherwise {then_lost : State → Prop} {spot : Spot tokens} {earlier : Nat}
    {other : Unit → Answer tokens Value}
    (meets : machine.Meets tokens goal state spot won lost answer) (order : earlier ≤ spot.val)
    (recover : ∀ {after}, machine.Standing tokens goal after →
      machine.ending state = machine.afterwards after → after.cursor = spot →
      after.result = state.result → lost after →
      machine.Meets tokens goal state earlier won then_lost (other ())) :
    machine.Meets tokens goal state earlier won then_lost (answer.otherwise spot other) := by
  cases meets with
  | derived standing ending cursor result won => exact .derived standing ending cursor result won
  | overflow ending cursor result => exact .overflow ending cursor result
  | lost standing ending cursor result unmoved lost =>
    cases Fin.ext unmoved
    rw [Answer.otherwise_start]
    exact recover standing ending cursor result lost
  | hopeless ending cursor result beyond =>
    rw [Answer.otherwise_apart (Fin.ne_of_gt beyond)]
    exact .hopeless ending cursor result (Nat.lt_of_le_of_lt order beyond)

theorem settle {then_lost : State → Prop} {spot : Spot tokens} {earlier : Nat}
    (meets : machine.Meets tokens goal state spot won lost answer) (order : earlier ≤ spot.val)
    (recover : ∀ {after}, machine.Standing tokens goal after →
      machine.ending state = machine.afterwards after → after.cursor = spot →
      after.result = state.result → lost after →
      machine.Meets tokens goal state earlier won then_lost (.lost spot)) :
    machine.Meets tokens goal state earlier won then_lost answer := by
  rw [← answer.otherwise_lost spot]
  exact meets.otherwise order recover

end Meets

def joined (origin : Origin) (progressed : Bool) (tree : Tree) (parent : Frame) : Frame :=
  { parent with
    progressed := if origin = .optional then parent.progressed else some progressed
    children := if progressed = true ∨ origin ≠ .again then parent.children ++ [tree]
      else parent.children }

section Joined

variable (progressed : Bool) (tree : Tree) (parent : Frame)

theorem joined_expand : joined .expand progressed tree parent =
    { parent with progressed := some progressed, children := parent.children ++ [tree] } := by
  simp [joined]

theorem joined_again_true : joined .again true tree parent =
    { parent with progressed := some true, children := parent.children ++ [tree] } := by
  simp [joined]

theorem joined_again_false : joined .again false tree parent =
    { parent with progressed := some false } := by
  simp [joined]

theorem joined_optional : joined .optional progressed tree parent =
    { parent with children := parent.children ++ [tree] } := by
  simp [joined]

end Joined

def Complete (machine : Machine) (frame : Frame) (below : List Frame) (children : List Tree)
    (after : State) : Prop :=
  ∃ done production, after.stack = done :: below ∧ Alike frame done ∧
    machine.current? done = some production ∧ production.length ≤ done.element ∧
    done.children = children

def Exhausted (machine : Machine) (frame : Frame) (below : List Frame) (after : State) : Prop :=
  ∃ left, after.stack = left :: below ∧ Alike frame left ∧
    (machine.table frame.symbol).length ≤ left.nextProduction

def Abandoned (machine : Machine) (origin : Origin) (below : List Frame) (after : State) : Prop :=
  ∃ child, after.stack = child :: below ∧ child.origin = origin ∧ child.start = after.cursor ∧
    (machine.table child.symbol).length ≤ child.nextProduction

/-- Frames pushed on these go through what the recursion goes through. -/
def Descends (machine : Machine) (tokens : List Token) (goal : String) (below : List Frame) :
    Prop :=
  ∀ {state : State} {symbol : String} {origin : Origin} (cursor : Spot tokens),
    machine.Standing tokens goal state → state.cursor = cursor →
    state.stack = fresh symbol origin cursor below :: below →
    machine.Meets tokens goal state cursor
      (fun tree after => ∃ children, tree = .branch symbol cursor after.cursor children ∧
        machine.Complete (fresh symbol origin cursor below) below children after)
      (machine.Exhausted (fresh symbol origin cursor below) below)
      (machine.descend tokens (path below) symbol cursor)

/-- The same of frames pushed on a frame in whatever stage of it, if there is room. -/
def Supports (machine : Machine) (tokens : List Token) (goal : String) (frame : Frame)
    (below : List Frame) : Prop :=
  below.length + 1 < machine.maxDepth → ∀ parent, Alike frame parent →
    machine.Descends tokens goal (parent :: below)

section Slots

variable {machine : Machine} {tokens : List Token} {goal : String} {state : State}
  {frame : Frame} {below : List Frame}

theorem Supports.alike {other : Frame} (supports : machine.Supports tokens goal frame below)
    (alike : Alike frame other) : machine.Supports tokens goal other below :=
  fun room parent later => supports room parent (alike.trans later)

theorem leaf?_accepted {terminal : Terminal} {token : Token} (cursor : Spot tokens)
    (there : tokens[cursor.val]? = some token) (accepted : terminal.accepts token = true) :
    ∃ stop : Spot tokens, stop.val = cursor + 1 ∧ Recursion.leaf? terminal cursor =
      some (.leaf token.kind token.lexeme cursor (cursor + 1), stop) := by
  obtain ⟨inside, rfl⟩ := List.getElem?_eq_some_iff.mp there
  refine ⟨⟨cursor + 1, Nat.succ_lt_succ inside⟩, rfl, ?_⟩
  unfold Recursion.leaf?
  rw [dif_pos inside]
  exact if_pos accepted

theorem leaf?_mismatch {terminal : Terminal} (cursor : Spot tokens)
    (mismatch : Mismatch terminal tokens[cursor.val]?) :
    Recursion.leaf? terminal cursor = none := by
  unfold Recursion.leaf?
  split
  · rename_i inside
    have other := mismatch _ (List.getElem?_eq_getElem inside)
    exact if_neg (by rw [other]; nofun)
  · rfl

/-- A child is pushed on a parent and goes through what the recursion goes through. -/
theorem call_meets {parent : Frame} {symbol : String} {origin : Origin} (cursor : Spot tokens)
    (standing : machine.Standing tokens goal state) (here : state.cursor = cursor)
    (stack : state.stack = frame :: below) (alike : Alike frame parent)
    (supports : machine.Supports tokens goal frame below)
    (enters : state.stack.length < machine.maxDepth →
      Gives (machine.step state) (.ok true) (entered state symbol origin (parent :: below)) ∧
        machine.Turn tokens state (entered state symbol origin (parent :: below)))
    (full : machine.maxDepth ≤ state.stack.length →
      Gives (machine.step state) (.error (machine.tooDeep state))
        { state with stack := parent :: below }) :
    machine.Meets tokens goal state cursor
      (fun tree after => after.stack =
        joined origin (decide (cursor.val < after.cursor)) tree parent :: below)
      (machine.Abandoned origin (parent :: below))
      (machine.descend tokens (path (frame :: below)) symbol cursor) := by
  have filled : state.stack ≠ [] := by
    rw [stack]
    nofun
  have depth : (path (frame :: below)).length = state.stack.length := by
    rw [stack, path, List.length_reverse, List.length_map]
  by_cases room : state.stack.length < machine.maxDepth
  · obtain ⟨stepped, turn⟩ := enters room
    have meets := supports (by rw [stack] at room; exact room) parent alike cursor
      (standing.turn turn) here (by rw [← here]; rfl)
    -- The child stands on the parent, the recursion was asked about the frame: one symbol.
    have same : path (parent :: below) = path (frame :: below) := by
      simp only [path, List.map_cons, alike.symbol]
    rw [same] at meets
    apply Meets.before (ending_step stepped) rfl
    generalize machine.descend tokens (path (frame :: below)) symbol cursor = answer at meets ⊢
    cases meets with
    | @derived tree stop after standing ending there result achieved =>
      obtain ⟨children, rfl, done, production, top, alike, current, last, rfl⟩ := achieved
      have adopted := standing.step_adopt top current last
      refine .derived (standing.turn (.adopt top current last))
        (ending.trans (ending_step adopted)) there result ?_
      show Machine.adopt after.cursor done parent :: below = _
      simp only [Machine.adopt, alike.symbol, alike.start, alike.origin]
      rfl
    | lost standing ending there result unmoved left =>
      obtain ⟨child, top, alike, spent⟩ := left
      rw [← alike.symbol] at spent
      have still := alike.start.trans (unmoved.symm.trans there.symm)
      exact .lost standing ending there result unmoved ⟨child, top, alike.origin, still, spent⟩
    | hopeless ending there result beyond => exact .hopeless ending there result beyond
    | overflow ending there result => exact .overflow ending there result
  · have deep := Nat.le_of_not_lt room
    have ending := ending_fault filled (full deep)
    have fault : machine.tooDeep state =
        .depthExceeded ⟨machine.maxDepth, cursor, path (frame :: below)⟩ := by
      unfold tooDeep State.symbols path
      rw [here, stack]
    rw [fault] at ending
    rw [Machine.descend, if_pos (depth ▸ deep)]
    exact .overflow ending here rfl

theorem repeated_meets {symbol : NonTerminal} {before trees : List Tree} (cursor : Spot tokens)
    (standing : machine.Standing tokens goal state) (here : state.cursor = cursor)
    (stack : state.stack = frame :: below)
    (slot : machine.element? frame = some (.required (.nonTerminal symbol)))
    (progressed : frame.progressed = some true) (children : frame.children = before ++ trees)
    (supports : machine.Supports tokens goal frame below) :
    machine.Meets tokens goal state cursor
      (fun trees after => after.stack =
        { frame.advance with children := before ++ trees } :: below)
      (fun _ => False)
      (Recursion.repeated (machine.descend tokens (path (frame :: below)) symbol.name) trees
        cursor) := by
  -- On the tokens that are left: an expansion is followed by another only if it moved.
  induction left : tokens.length - cursor.val using Nat.strongRecOn
    generalizing state frame trees cursor with
  | ind left ih =>
    have alike : Alike frame { frame with progressed := none } := ⟨rfl, rfl, rfl, rfl⟩
    have called := call_meets cursor standing here stack alike supports
      (fun room => ⟨standing.step_enter stack slot (.inr ⟨progressed, rfl⟩) room,
        .enter stack slot (.inr ⟨progressed, rfl⟩) room⟩)
      (fun full => standing.step_enter_full stack slot (by rw [progressed]; nofun) full)
    rw [Recursion.repeated]
    generalize machine.descend tokens (path (frame :: below)) symbol.name cursor = answer
      at called ⊢
    cases called with
    | @derived tree stop after standing ending there result shape =>
      dsimp only
      rw [there] at shape
      by_cases moved : cursor.val < stop.val
      · rw [decide_eq_true moved, joined_again_true] at shape
        rw [if_pos (show cursor < stop from moved)]
        have grown : frame.children ++ [tree] = before ++ (trees ++ [tree]) := by
          rw [children, List.append_assoc]
        have again := ih (tokens.length - stop) (by omega) stop standing there shape slot rfl grown
          (supports.alike ⟨rfl, rfl, rfl, rfl⟩) rfl
        exact (again.settle (Nat.le_of_lt moved) fun _ _ _ _ never => never.elim).before
          ending result
      · rw [decide_eq_false moved, joined_again_false] at shape
        rw [if_neg (show ¬ cursor < stop from moved)]
        have closed := standing.step_close shape slot rfl
        refine .derived (standing.turn (.close shape slot rfl))
          (ending.trans (ending_step closed)) there result ?_
        rw [← children]
        rfl
    | lost standing ending there result unmoved left =>
      -- The repetition is lost where it began, and the slot keeps what it had.
      obtain ⟨child, top, origin, still, spent⟩ := left
      cases Fin.ext unmoved
      dsimp only
      rw [if_pos rfl]
      have absent := standing.backtrack_unrepeated top still spent origin
      refine .derived (standing.turn (.unrepeated top still spent origin))
        (ending.trans (afterwards_true absent)) there result ?_
      rw [← children]
      rfl
    | hopeless ending there result beyond =>
      dsimp only
      rw [if_neg (Fin.ne_of_gt beyond)]
      exact .hopeless ending there result beyond
    | overflow ending there result => exact .overflow ending there result

theorem required_meets {symbol : NonTerminal} (cursor : Spot tokens)
    (standing : machine.Standing tokens goal state) (here : state.cursor = cursor)
    (stack : state.stack = frame :: below)
    (slot : machine.element? frame = some (.required (.nonTerminal symbol)))
    (unjudged : frame.progressed = none)
    (supports : machine.Supports tokens goal frame below) :
    machine.Meets tokens goal state cursor
      (fun trees after => after.stack =
        { frame.advance with children := frame.children ++ trees } :: below)
      (fun after => after.stack = frame :: below)
      (Recursion.slot (machine.descend tokens (path (frame :: below)))
        (.required (.nonTerminal symbol)) cursor) := by
  have alike : Alike frame { frame with progressed := none } := ⟨rfl, rfl, rfl, rfl⟩
  have called := call_meets cursor standing here stack alike supports
    (fun room => ⟨standing.step_enter stack slot (.inl ⟨unjudged, rfl⟩) room,
      .enter stack slot (.inl ⟨unjudged, rfl⟩) room⟩)
    (fun full => standing.step_enter_full stack slot (by rw [unjudged]; nofun) full)
  refine Meets.follow (called.settle (Nat.le_refl _) ?_) ?_
  · intro after standing ending there result left
    -- The child is dropped, and it is for its parent to try something else.
    obtain ⟨child, top, origin, still, spent⟩ := left
    have needed : child.origin.tentative = false := by
      rw [origin]
      rfl
    refine .lost (standing.turn (.drop top still spent needed))
      (ending.trans (afterwards_congr (standing.backtrack_below top (.inr ⟨spent, needed⟩))))
      there result rfl ?_
    rw [← unjudged]
    rfl
  · intro tree stop after standing there shape
    rw [there, joined_expand] at shape
    by_cases moved : cursor.val < stop.val
    · rw [decide_eq_true moved] at shape
      rw [if_pos (show cursor < stop from moved)]
      have again := repeated_meets stop standing there shape slot rfl rfl
        (supports.alike ⟨rfl, rfl, rfl, rfl⟩)
      exact again.settle (Nat.le_of_lt moved) fun _ _ _ _ never => never.elim
    · rw [decide_eq_false moved] at shape
      rw [if_neg (show ¬ cursor < stop from moved)]
      have closed := standing.step_close shape slot rfl
      exact .derived (standing.turn (.close shape slot rfl)) (ending_step closed) there rfl rfl

theorem optional_meets {symbol : NonTerminal} (cursor : Spot tokens)
    (standing : machine.Standing tokens goal state) (here : state.cursor = cursor)
    (stack : state.stack = frame :: below)
    (slot : machine.element? frame = some (.optional (some (.nonTerminal symbol))))
    (supports : machine.Supports tokens goal frame below) :
    machine.Meets tokens goal state cursor
      (fun trees after => after.stack =
        { frame.advance with children := frame.children ++ trees } :: below)
      (fun after => after.stack = frame :: below)
      (Recursion.slot (machine.descend tokens (path (frame :: below)))
        (.optional (some (.nonTerminal symbol))) cursor) := by
  have called := call_meets cursor standing here stack (.advance frame) supports
    (fun room => ⟨standing.step_attempt stack slot room, .attempt stack slot room⟩)
    (fun full => standing.step_attempt_full stack slot full)
  unfold Recursion.slot
  refine Meets.otherwise (Meets.follow called ?_) (Nat.le_refl _) ?_
  · intro tree stop after standing there shape
    rw [joined_optional] at shape
    exact .derived standing rfl there rfl shape
  · intro after standing ending there result left
    -- The child is dropped, and its parent goes on behind the slot.
    obtain ⟨child, top, origin, still, spent⟩ := left
    have absent := standing.backtrack_absent top still spent origin
    refine .derived (standing.turn (.omitted top still spent origin))
      (ending.trans (afterwards_true absent)) there result ?_
    rw [List.append_nil]
    rfl

theorem shift_meets {token : Token} {terminal : Terminal} {lost : State → Prop}
    (cursor : Spot tokens) (standing : machine.Standing tokens goal state)
    (here : state.cursor = cursor) (stack : state.stack = frame :: below)
    (slot : machine.element? frame = some (.required (.terminal terminal)) ∨
      machine.element? frame = some (.optional (some (.terminal terminal))))
    (there : tokens[cursor.val]? = some token) (accepted : terminal.accepts token = true) :
    ∃ leaf stop, Recursion.leaf? terminal cursor = some (leaf, stop) ∧
      machine.Meets tokens goal state cursor
        (fun trees after => after.stack =
          { frame.advance with children := frame.children ++ trees } :: below)
        lost (.derived [leaf] stop) := by
  obtain ⟨stop, next, found⟩ := leaf?_accepted cursor there accepted
  refine ⟨_, stop, found, ?_⟩
  rw [← here] at there next ⊢
  exact .derived (standing.turn (.shift stack there slot accepted))
    (ending_step (standing.step_shift stack there slot accepted)) next.symm rfl rfl

theorem slot_meets {element : Element} (cursor : Spot tokens)
    (standing : machine.Standing tokens goal state) (here : state.cursor = cursor)
    (stack : state.stack = frame :: below) (slot : machine.element? frame = some element)
    (unjudged : frame.progressed = none)
    (supports : machine.Supports tokens goal frame below) :
    machine.Meets tokens goal state cursor
      (fun trees after => after.stack =
        { frame.advance with children := frame.children ++ trees } :: below)
      (fun after => after.stack = frame :: below)
      (Recursion.slot (machine.descend tokens (path (frame :: below))) element cursor) := by
  have skip {symbol : Option Symbol}
      (slot : machine.element? frame = some (.optional symbol))
      (absent : symbol = none ∨ ∃ terminal, symbol = some (.terminal terminal) ∧
        Mismatch terminal tokens[state.cursor]?) :
      machine.Meets tokens goal state cursor
        (fun trees after => after.stack =
          { frame.advance with children := frame.children ++ trees } :: below)
        (fun after => after.stack = frame :: below) (.derived [] cursor) := by
    refine .derived (standing.turn (.skip stack slot absent))
      (ending_step (standing.step_skip stack slot absent)) here rfl ?_
    rw [List.append_nil]
    rfl
  rcases element with (terminal | symbol) | (_ | terminal | symbol)
  · rcases mismatch_or_accepted terminal tokens[cursor.val]? with
      mismatch | ⟨token, there, accepted⟩
    · simp only [Recursion.slot, leaf?_mismatch cursor mismatch]
      rw [← here] at mismatch
      have failed := standing.step_mismatch stack slot mismatch
      have turned := standing.turn (.fail stack (.terminal slot mismatch))
      obtain ⟨failure, same⟩ := fail_eq state state.symbols [.terminal terminal.criterion]
      rw [same] at failed turned
      exact .lost turned (ending_stuck failed) here rfl rfl stack
    · obtain ⟨leaf, stop, found, meets⟩ :=
        shift_meets cursor standing here stack (.inl slot) there accepted
      simp only [Recursion.slot, found]
      exact meets
  · exact required_meets cursor standing here stack slot unjudged supports
  · exact skip slot (.inl rfl)
  · rcases mismatch_or_accepted terminal tokens[cursor.val]? with
      mismatch | ⟨token, there, accepted⟩
    · simp only [Recursion.slot, leaf?_mismatch cursor mismatch]
      rw [← here] at mismatch
      exact skip slot (.inr ⟨terminal, rfl, mismatch⟩)
    · obtain ⟨leaf, stop, found, meets⟩ :=
        shift_meets cursor standing here stack (.inr slot) there accepted
      simp only [Recursion.slot, found]
      exact meets
  · exact optional_meets cursor standing here stack slot supports

end Slots

end Machine

end Descent
