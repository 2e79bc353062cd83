import Mathlib
import Descent.Proofs.Goals
import Descent.Proofs.Leaves
import Descent.Proofs.Replacement

/-! Only what the terminals can see matters.

Two lists of tokens are compared that no terminal of the grammar can tell apart, place by place.
Over the one the machine does what it does over the other, call by call, and what it builds
differs only by how the leaves are spelled.
-/

set_option autoImplicit false

namespace Descent

/-- No terminal of the grammar tells the one token from the other. -/
def Grammar.Blurs (grammar : Grammar) (token other : Token) : Prop :=
  ∀ terminal ∈ grammar.terminals, terminal.accepts token = terminal.accepts other

instance (grammar : Grammar) (token other : Token) : Decidable (grammar.Blurs token other) :=
  inferInstanceAs (Decidable (∀ terminal ∈ grammar.terminals, _))

def Token.word (token : Token) : String × String := (token.kind, token.lexeme)

namespace Node

mutual

/-- The tree with the leaves that the tokens make at their places. -/
def respell (tokens : List Token) : Tree → Tree
  | leaf kind lexeme start stop =>
    match tokens[start]? with
    | some token => leaf token.kind token.lexeme start stop
    | none => leaf kind lexeme start stop
  | branch name start stop children => branch name start stop (respellAll tokens children)

def respellAll (tokens : List Token) : List Tree → List Tree
  | [] => []
  | node :: rest => respell tokens node :: respellAll tokens rest

end

end Node

def Frame.respell (tokens : List Token) (frame : Frame) : Frame :=
  { frame with children := Node.respellAll tokens frame.children }

section Frame

variable (tokens : List Token) (frame : Frame)

@[simp] theorem Frame.respell_symbol : (frame.respell tokens).symbol = frame.symbol := rfl

@[simp] theorem Frame.respell_marker : (frame.respell tokens).marker = frame.marker := rfl

@[simp] theorem Frame.respell_start : (frame.respell tokens).start = frame.start := rfl

@[simp] theorem Frame.respell_origin : (frame.respell tokens).origin = frame.origin := rfl

@[simp] theorem Frame.respell_nextProduction :
    (frame.respell tokens).nextProduction = frame.nextProduction := rfl

@[simp] theorem Frame.respell_advance :
    (frame.respell tokens).advance = frame.advance.respell tokens := rfl

end Frame

def State.respell (state : State) (tokens : List Token) : State :=
  { state with
    tokens := some tokens
    stack := state.stack.map (Frame.respell tokens)
    result := state.result.map (Node.respell tokens) }

def Outcome.respell {α : Type} (outcome : Outcome α) (tokens : List Token) : Outcome α :=
  { outcome with after := outcome.after.respell tokens }

def Move.showing (token : Option Token) : Move → Move
  | .shift shifted => .shift (token.getD shifted)
  | move => move

namespace Grammar

variable {grammar : Grammar} {token other : Token}

theorem Blurs.refl (grammar : Grammar) (token : Token) : grammar.Blurs token token :=
  fun _ _ => rfl

theorem Blurs.of_word (same : token.word = other.word) : grammar.Blurs token other := by
  obtain ⟨kind, lexeme⟩ := Prod.mk.inj same
  intro terminal _
  unfold Terminal.accepts Criterion.accepts
  rw [kind, lexeme]

theorem Blurs.criterion (blurs : grammar.Blurs token other) {criterion : Criterion}
    (mentioned : criterion ∈ OpeningTable.alphabet grammar.rules) :
    criterion.accepts token = criterion.accepts other := by
  obtain ⟨terminal, member, rfl⟩ := Grammar.exists_terminal mentioned
  exact blurs terminal member

theorem Blurs.first (blurs : grammar.Blurs token other) (symbol : String) :
    (grammar.opening symbol).first.accepts token = (grammar.opening symbol).first.accepts other := by
  rw [Bool.eq_iff_iff, TerminalSet.accepts_iff, TerminalSet.accepts_iff]
  refine exists_congr fun criterion => and_congr_right fun member => ?_
  rw [blurs.criterion (grammar.opening_alphabet symbol member)]

end Grammar

namespace Machine

section Lookahead

variable {machine : Machine} {token other : Token} {lookahead beside : Option Token}

theorem accepts_blurs (blurs : machine.grammar.Blurs token other) {symbol : String}
    {production : Production} {element : Element} {terminal : Terminal}
    (listed : production ∈ machine.table symbol) (member : element ∈ production)
    (mentions : element.symbol? = some (.terminal terminal)) :
    terminal.accepts token = terminal.accepts other :=
  blurs.criterion (Grammar.terminal_alphabet (lists_of_mem_table listed) member mentions)

theorem predicts_blurs (blurs : machine.grammar.Blurs token other) {symbol : String}
    {production : Production} (listed : production ∈ machine.table symbol) :
    machine.predicts production token = machine.predicts production other := by
  unfold predicts
  cases mentioned : production.head?.bind Element.symbol? with
  | none => rfl
  | some called =>
    obtain ⟨element, head, mentions⟩ := Option.bind_eq_some_iff.mp mentioned
    cases called with
    | terminal terminal => exact accepts_blurs blurs listed (List.mem_of_mem_head? head) mentions
    | nonTerminal symbol => exact blurs.first symbol.name

theorem predicted?_blurs (blurs : Option.Rel machine.grammar.Blurs lookahead beside)
    (frame : Frame) :
    machine.predicted? (machine.table frame.symbol) beside frame =
      machine.predicted? (machine.table frame.symbol) lookahead frame := by
  unfold predicted?
  cases blurs with
  | none => rfl
  | @some token other blurs =>
    cases frame.production with
    | some production => rfl
    | none =>
      have same : (machine.table frame.symbol).map (machine.predicts · token) =
          (machine.table frame.symbol).map (machine.predicts · other) :=
        List.map_congr_left fun production listed => predicts_blurs blurs listed
      have found := congrArg (List.findIdx? id) same
      rw [List.findIdx?_map, List.findIdx?_map] at found
      exact found.symm

theorem showing_none (move : Move) : move.showing none = move := by
  cases move <;> rfl

theorem move_blurs (blurs : Option.Rel machine.grammar.Blurs lookahead beside) (frame : Frame) :
    machine.move (machine.table frame.symbol) beside frame =
      (machine.move (machine.table frame.symbol) lookahead frame).showing beside := by
  cases blurs with
  | none => exact (showing_none _).symm
  | @some token other blurs =>
    unfold move
    cases current : frame.production.bind ((machine.table frame.symbol)[·]?) with
    | none => rfl
    | some production =>
      dsimp only
      cases found : production[frame.element]? with
      | none => rfl
      | some element =>
        have accepts {terminal : Terminal} (mentions : element.symbol? = some (.terminal terminal)) :
            terminal.accepts token = terminal.accepts other :=
          accepts_blurs blurs (current?_mem current) (List.mem_of_getElem? found) mentions
        rcases element with (terminal | symbol) | (_ | terminal | symbol)
        · dsimp only
          rw [accepts rfl, apply_ite (Move.showing (some other))]
          rfl
        · dsimp only
          split <;> rfl
        · rfl
        · dsimp only
          rw [accepts rfl, apply_ite (Move.showing (some other))]
          rfl
        · rfl

end Lookahead

section Respell

variable (machine : Machine) (others : List Token) (state : State) (frame : Frame)
  (below : List Frame)

theorem respellAll_append (left right : List Tree) :
    Node.respellAll others (left ++ right) =
      Node.respellAll others left ++ Node.respellAll others right := by
  induction left with
  | nil => rfl
  | cons node rest ih => exact congrArg (node.respell others :: ·) ih

theorem stack_symbols_respell :
    (below.map (Frame.respell others)).map Frame.symbol = below.map Frame.symbol := by
  rw [List.map_map]
  rfl

theorem symbols_respell : (state.respell others).symbols = state.symbols :=
  congrArg List.reverse (stack_symbols_respell others state.stack)

theorem marker_respell (symbol : String) :
    (state.respell others).marker symbol = state.marker symbol :=
  congrArg (Marker.mk symbol state.cursor) (stack_symbols_respell others state.stack)

theorem fail_respell (symbols : List String) (expected : List Expectation) :
    (state.respell others).fail symbols expected = (state.fail symbols expected).respell others := by
  obtain ⟨tokens, cursor, stack, markers, trace, result, failure⟩ := state
  cases failure with
  | none => rfl
  | some failure =>
    unfold State.fail
    dsimp only
    rw [apply_ite (State.respell · others), apply_ite (State.respell · others)]
    rfl

theorem push_respell (symbol : String) (origin : Origin) :
    machine.push symbol origin (state.respell others) =
      (machine.push symbol origin state).respell others := by
  have height : (state.respell others).stack.length = state.stack.length := List.length_map _
  unfold push
  dsimp only
  rw [marker_respell, symbols_respell, height, apply_ite (Outcome.respell · others),
    apply_ite (Outcome.respell · others)]
  rfl

theorem adopt_respell (cursor : Nat) (child parent : Frame) :
    adopt cursor (child.respell others) (parent.respell others) =
      (adopt cursor child parent).respell others := by
  unfold adopt Frame.respell
  dsimp only
  rw [apply_ite (Node.respellAll others), respellAll_append]
  rfl

theorem complete_respell :
    complete (state.respell others) (frame.respell others) (below.map (Frame.respell others)) =
      (complete state frame below).respell others := by
  unfold complete
  dsimp only
  rw [apply_ite (Outcome.respell · others)]
  refine if_congr Iff.rfl ?_ rfl
  cases below with
  | nil => rfl
  | cons parent rest =>
    exact congrArg (fun adopted => Outcome.done { state.respell others with
      markers := state.markers.erase frame.marker
      stack := adopted :: rest.map (Frame.respell others) } true)
      (adopt_respell others state.cursor frame parent)

theorem shift_respell (token : Token) :
    shift (state.respell others) (others[state.cursor]?.getD token) (frame.respell others)
        (below.map (Frame.respell others)) =
      (shift state token frame below).respell others := by
  have leaf : Node.respell others
      (.leaf token.kind token.lexeme state.cursor (state.cursor + 1)) =
        .leaf (others[state.cursor]?.getD token).kind (others[state.cursor]?.getD token).lexeme
          state.cursor (state.cursor + 1) := by
    unfold Node.respell
    cases others[state.cursor]? <;> rfl
  have children := respellAll_append others frame.children
    [.leaf token.kind token.lexeme state.cursor (state.cursor + 1)]
  rw [Node.respellAll, leaf] at children
  exact congrArg (fun children => { state.respell others with
    cursor := state.cursor + 1
    stack := { (frame.respell others).advance with children := children } ::
      below.map (Frame.respell others) }) children.symm

theorem stuck_respell (expected : List Expectation) :
    stuck (state.respell others) (frame.respell others) (below.map (Frame.respell others))
        expected = (stuck state frame below expected).respell others := by
  have held : { state.respell others with
      stack := frame.respell others :: below.map (Frame.respell others) } =
        State.respell { state with stack := frame :: below } others := rfl
  unfold stuck
  dsimp only
  rw [held, symbols_respell, fail_respell]

theorem perform_respell (move : Move) :
    machine.perform (state.respell others) (frame.respell others) (below.map (Frame.respell others))
        (move.showing others[state.cursor]?) =
      (machine.perform state frame below move).respell others := by
  have pushed (symbol : String) (origin : Origin) (slot : Frame) :
      machine.push symbol origin { state.respell others with
        stack := slot.respell others :: below.map (Frame.respell others) } =
        (machine.push symbol origin { state with stack := slot :: below }).respell others :=
    push_respell machine others { state with stack := slot :: below } symbol origin
  cases move with
  | complete => exact complete_respell others state frame below
  | shift token => exact congrArg (Outcome.done · true) (shift_respell others state frame below token)
  | leave => rfl
  | enter symbol origin =>
    have slot := pushed symbol origin { frame with progressed := none }
    unfold Move.showing perform
    dsimp only
    rw [show ({ frame.respell others with progressed := none } : Frame) =
      Frame.respell others { frame with progressed := none } from rfl, slot]
    generalize machine.push symbol origin _ = outcome
    obtain ⟨result, after, records⟩ := outcome
    dsimp only [Outcome.respell]
    split
    · rw [stuck_respell]
    · rfl
  | attempt symbol =>
    have slot := pushed symbol .optional frame.advance
    unfold Move.showing perform
    dsimp only
    rw [Frame.respell_advance, slot]
    generalize machine.push symbol .optional _ = outcome
    obtain ⟨result, after, records⟩ := outcome
    cases result <;> rfl
  | stuck expected =>
    exact congrArg (Outcome.done · false) (stuck_respell others state frame below expected)

theorem unwind_respell (frames : List Frame) :
    machine.unwind (state.respell others) (frames.map (Frame.respell others)) =
      (machine.unwind state frames).respell others := by
  obtain ⟨tokens, cursor, stack, markers, trace, result, failure⟩ := state
  show machine.unwind ⟨some others, cursor, stack.map _, markers, trace, result.map _, failure⟩
    (frames.map (Frame.respell others)) = _
  induction frames generalizing markers with
  | nil => rfl
  | cons frame below ih =>
    rw [List.map_cons]
    unfold unwind
    simp only [Frame.respell_symbol, Frame.respell_start, Frame.respell_nextProduction,
      Frame.respell_marker, Frame.respell_origin]
    cases machine.grammar.productionsOf frame.symbol with
    | error unknown => rfl
    | ok productions =>
      dsimp only
      by_cases more : decide (frame.start < cursor) = false ∧
          frame.nextProduction < productions.length
      · rw [if_pos more]
        exact if_pos more
      · rw [if_neg more]
        refine (if_neg more).trans ?_
        by_cases held : frame.marker ∈ markers
        · rw [if_pos held]
          refine (if_pos held).trans ?_
          by_cases absent : frame.origin.tentative = true ∧ decide (frame.start < cursor) = false
          · rw [if_pos absent]
            refine (if_pos absent).trans ?_
            cases frame.origin <;> cases below <;> rfl
          · rw [if_neg absent]
            refine (if_neg absent).trans ?_
            rw [ih (markers.erase frame.marker)]
            rfl
        · rw [if_neg held]
          exact if_neg held

theorem backtrack_respell :
    machine.backtrack (state.respell others) = (machine.backtrack state).respell others :=
  machine.unwind_respell others state state.stack

theorem pushGoal_respell (tokens : List Token) (goal : String) :
    machine.pushGoal goal (.initial others) =
      (machine.pushGoal goal (.initial tokens)).respell others := by
  have pushed := push_respell machine others (.initial tokens) goal .goal
  rw [show (State.initial tokens).respell others = .initial others from rfl] at pushed
  unfold pushGoal
  exact congrArg (fun outcome : Outcome Bool =>
    { outcome with result := outcome.result.map fun _ => () }) pushed

end Respell

section Calls

variable {machine : Machine} {tokens others : List Token} {goal : String} {state : State}

theorem lookahead_blurs (blurred : List.Forall₂ machine.grammar.Blurs tokens others) (place : Nat) :
    Option.Rel machine.grammar.Blurs tokens[place]? others[place]? := by
  induction blurred generalizing place with
  | nil => exact .none
  | cons blurs _ ih =>
    cases place with
    | zero => exact .some blurs
    | succ place => exact ih place

theorem act_respell (blurred : List.Forall₂ machine.grammar.Blurs tokens others) (state : State)
    (frame : Frame) (below : List Frame) :
    machine.act (machine.table frame.symbol) others[state.cursor]? (state.respell others)
        (frame.respell others) (below.map (Frame.respell others)) =
      (machine.act (machine.table frame.symbol) tokens[state.cursor]? state frame below).respell
        others := by
  have blurs := lookahead_blurs blurred state.cursor
  have predicted : machine.predicted? (machine.table frame.symbol) others[state.cursor]?
      (frame.respell others) = _ := predicted?_blurs blurs frame
  have moves (held : Frame) (alike : held.symbol = frame.symbol) :
      machine.move (machine.table frame.symbol) others[state.cursor]? (held.respell others) =
        (machine.move (machine.table frame.symbol) tokens[state.cursor]? held).showing
          others[state.cursor]? := by
    rw [← alike]
    exact move_blurs blurs held
  unfold act
  rw [predicted]
  split
  · rename_i production _
    have chosen := moves (frame.select production) rfl
    refine (congrArg (machine.perform _ _ _) chosen).trans ?_
    exact perform_respell machine others (state.select frame below production)
      (frame.select production) below _
  · rw [moves frame rfl]
    exact perform_respell machine others state frame below _

/-- A step sees of the token under the cursor what the terminals see of it. -/
theorem step_respell (blurred : List.Forall₂ machine.grammar.Blurs tokens others)
    (installed : state.tokens = some tokens) :
    Gives (machine.step (state.respell others)) (machine.step state).result
      ((machine.step state).after.respell others) := by
  unfold step
  rw [installed, show (state.respell others).stack = state.stack.map (Frame.respell others) from rfl]
  cases stack : state.stack with
  | nil => exact ⟨rfl, rfl⟩
  | cons frame below =>
    rw [List.map_cons]
    dsimp only
    rw [Frame.respell_symbol]
    cases known : machine.grammar.productionsOf frame.symbol with
    | error unknown => exact ⟨rfl, rfl⟩
    | ok productions =>
      obtain rfl := machine.table_eq known
      have acted := act_respell blurred state frame below
      exact ⟨(congrArg Outcome.result acted :), (congrArg Outcome.after acted :)⟩

theorem round_respell (blurred : List.Forall₂ machine.grammar.Blurs tokens others)
    (installed : state.tokens = some tokens) :
    Gives (machine.round (state.respell others)) (machine.round state).result
      ((machine.round state).after.respell others) := by
  refine round_carried (State.respell · others) (step_respell blurred installed) fun stuck => ?_
  rw [backtrack_respell]
  exact ⟨rfl, rfl⟩

theorem ending_respell (blurred : List.Forall₂ machine.grammar.Blurs tokens others)
    (installed : state.tokens = some tokens) :
    machine.ending (state.respell others) =
      ((machine.ending state).1, (machine.ending state).2.respell others) := by
  have filled {state : State} (filled : state.stack ≠ []) : (state.respell others).stack ≠ [] :=
    fun empty => filled (List.map_eq_nil_iff.mp empty)
  induction state using machine.ending_induct with
  | empty state stack ended =>
    rw [ended]
    exact ending_empty (congrArg (List.map (Frame.respell others)) stack)
  | again state some went ended ih =>
    obtain ⟨result, after⟩ := round_respell blurred installed
    rw [ended, ending_round (filled some), result, after, went]
    exact ih ((machine.round_kept state).tokens.trans installed)
  | last state some lost ended =>
    obtain ⟨result, after⟩ := round_respell blurred installed
    rw [ended, ending_round (filled some), result, after, lost]
  | broken state fault some failed ended =>
    obtain ⟨result, after⟩ := round_respell blurred installed
    rw [ended, ending_round (filled some), result, after, failed]

theorem Reached.rooted (reached : machine.Reached tokens goal state) {tree : Tree}
    (result : state.result = some tree) : Node.IsBranch goal tree := by
  by_cases known : machine.Knows goal
  · exact ((reached.growing known).result tree result).1
  · rw [reached.unchanged (inert_goal known)] at result
    revert result
    exact pushGoal_cases nofun nofun

theorem verdict_respell (length : tokens.length = others.length)
    (rooted : ∀ tree, state.result = some tree → Node.IsBranch goal tree) :
    verdict others (state.respell others) = (verdict tokens state).respell others := by
  unfold verdict
  rw [show (state.respell others).result = state.result.map (Node.respell others) from rfl]
  cases found : state.result with
  | none => rfl
  | some tree =>
    obtain ⟨start, stop, children, rfl⟩ := rooted tree found
    dsimp only [Option.map_some]
    rw [length, apply_ite (Outcome.respell · others), fail_respell]
    rfl

theorem run_result (installed : state.tokens = some tokens) :
    (machine.run state).after.result = (machine.ending state).2.result := by
  obtain ⟨_, after⟩ := machine.run_ending installed
  rw [after]
  rcases machine.ending state with ⟨_ | _, final⟩
  · rfl
  · show (verdict tokens final).after.result = final.result
    exact (machine.verdict_edits tokens ⟨final, [], [], false⟩).quiet.result

theorem run_respell (blurred : List.Forall₂ machine.grammar.Blurs tokens others)
    (installed : state.tokens = some tokens)
    (rooted : ∀ tree, (machine.run state).after.result = some tree → Node.IsBranch goal tree) :
    Gives (machine.run (state.respell others)) (machine.run state).result
      ((machine.run state).after.respell others) := by
  have ended := ending_respell blurred installed
  have run := machine.run_ending installed
  have other : Gives (machine.run (state.respell others)) _ _ := machine.run_ending rfl
  rw [run_result installed] at rooted
  rw [ended] at other
  rcases result : machine.ending state with ⟨fault | _, final⟩
  · rw [result] at run other
    exact ⟨other.1.trans run.1.symm, other.2.trans (congrArg (State.respell · others) run.2.symm)⟩
  · rw [result] at run other rooted
    dsimp only at run other
    rw [verdict_respell blurred.length_eq rooted] at other
    exact ⟨other.1.trans run.1.symm, other.2.trans (congrArg (State.respell · others) run.2.symm)⟩

theorem Reached.run_respell (blurred : List.Forall₂ machine.grammar.Blurs tokens others)
    (reached : machine.Reached tokens goal state) :
    Gives (machine.run (state.respell others)) (machine.run state).result
      ((machine.run state).after.respell others) :=
  Machine.run_respell blurred reached.based.installed fun _ => reached.run.rooted

theorem Reached.respell (blurred : List.Forall₂ machine.grammar.Blurs tokens others)
    (reached : machine.Reached tokens goal state) :
    machine.Reached others goal (state.respell others) := by
  induction reached with
  | goal =>
    have pushed : Reached machine others goal _ := .goal
    rw [machine.pushGoal_respell others tokens goal] at pushed
    exact pushed
  | step reached ih =>
    rw [← (step_respell blurred reached.based.installed).2]
    exact ih.step
  | @backtrack state _ ih =>
    have back := ih.backtrack
    rw [machine.backtrack_respell others state] at back
    exact back
  | run reached ih =>
    rw [← (reached.run_respell blurred).2]
    exact ih.run

end Calls

def Row.respell (tokens : List Token) (row : Row) : Row :=
  { row with stack := row.stack.map (Frame.respell tokens) }

structure Drive.Echoes (others : List Token) (drive other : Drive) : Prop where
  rows : other.rows = drive.rows.map (Row.respell others)
  fault : other.fault = drive.fault
  after : other.after = drive.after.respell others

/-- Over the other tokens the machine does the same for the goal, and spells it as they are. -/
structure Echoes (machine : Machine) (tokens others : List Token) (goal : String) : Prop where
  pushes : machine.pushGoal goal (.initial others) =
    (machine.pushGoal goal (.initial tokens)).respell others
  calls : ∀ state, machine.Reached tokens goal state →
    machine.Reached others goal (state.respell others) ∧
      Gives (machine.step (state.respell others)) (machine.step state).result
        ((machine.step state).after.respell others) ∧
      Gives (machine.backtrack (state.respell others)) (machine.backtrack state).result
        ((machine.backtrack state).after.respell others) ∧
      Gives (machine.run (state.respell others)) (machine.run state).result
        ((machine.run state).after.respell others)
  drives : ∀ rounds,
    Drive.Echoes others (machine.drive rounds (machine.pushGoal goal (.initial tokens)).after)
      (machine.drive rounds (machine.pushGoal goal (.initial others)).after)
  derives : Gives (machine.derive goal others) (machine.derive goal tokens).result
    ((machine.derive goal tokens).after.respell others)

section Echoes

variable {machine : Machine} {tokens others : List Token} {goal : String} {state : State}

theorem drive_respell (blurred : List.Forall₂ machine.grammar.Blurs tokens others)
    (installed : state.tokens = some tokens) (rounds : Nat) :
    Drive.Echoes others (machine.drive rounds state)
      (machine.drive rounds (state.respell others)) := by
  induction rounds generalizing state with
  | zero => exact ⟨rfl, rfl, rfl⟩
  | succ rounds ih =>
    unfold drive
    rw [show (state.respell others).stack.isEmpty = state.stack.isEmpty from List.isEmpty_map]
    by_cases empty : state.stack.isEmpty = true
    · rw [if_pos empty, if_pos empty]
      exact ⟨rfl, rfl, rfl⟩
    · rw [if_neg empty, if_neg empty]
      have stays := (machine.step_kept state).tokens.trans installed
      obtain ⟨result, after⟩ := step_respell blurred installed
      revert result after stays
      rcases machine.step (state.respell others) with ⟨other, beside, log⟩
      rcases machine.step state with ⟨answer, next, records⟩
      intro stays result after
      obtain rfl : other = answer := result
      obtain rfl : beside = next.respell others := after
      rcases other with fault | _ | _
      · exact ⟨rfl, rfl, rfl⟩
      · dsimp only
        have kept := (machine.backtrack_kept next).tokens.trans stays
        rw [backtrack_respell]
        revert kept
        rcases machine.backtrack next with ⟨fault | found, last, more⟩
        · exact fun _ => ⟨rfl, rfl, rfl⟩
        · intro kept
          cases found with
          | false => exact ⟨rfl, rfl, rfl⟩
          | true =>
            obtain ⟨rows, fault, final⟩ := ih kept
            exact ⟨congrArg (List.cons _) rows, fault, final⟩
      · obtain ⟨rows, fault, final⟩ := ih stays
        exact ⟨congrArg (List.cons _) rows, fault, final⟩

theorem derive_respell (blurred : List.Forall₂ machine.grammar.Blurs tokens others)
    (goal : String) :
    Gives (machine.derive goal others) (machine.derive goal tokens).result
      ((machine.derive goal tokens).after.respell others) := by
  unfold derive
  rw [machine.pushGoal_respell others tokens goal]
  dsimp only [Outcome.respell]
  cases pushed : (machine.pushGoal goal (.initial tokens)).result with
  | error fault => exact ⟨rfl, rfl⟩
  | ok => exact Reached.goal.run_respell blurred

theorem blurred_echoes (blurred : List.Forall₂ machine.grammar.Blurs tokens others)
    (goal : String) : machine.Echoes tokens others goal := by
  refine ⟨machine.pushGoal_respell others tokens goal, fun state reached => ?_, fun rounds => ?_,
    derive_respell blurred goal⟩
  · refine ⟨reached.respell blurred, step_respell blurred reached.based.installed, ?_,
      reached.run_respell blurred⟩
    rw [backtrack_respell]
    exact ⟨rfl, rfl⟩
  · rw [machine.pushGoal_respell others tokens goal]
    exact drive_respell blurred Reached.goal.based.installed rounds

theorem leaf_words (words : tokens.map Token.word = others.map Token.word) (kind lexeme : String)
    (start stop : Nat) : Node.respell others (.leaf kind lexeme start stop) =
      Node.respell tokens (.leaf kind lexeme start stop) := by
  have same := congrArg (fun words : List (String × String) => words[start]?) words
  simp only [List.getElem?_map] at same
  unfold Node.respell
  cases here : tokens[start]? with
  | none =>
    rw [here] at same
    rw [Option.map_eq_none_iff.mp same.symm]
  | some token =>
    rw [here] at same
    obtain ⟨other, there, word⟩ := Option.map_eq_some_iff.mp same.symm
    obtain ⟨kind, lexeme⟩ := Prod.mk.inj word
    rw [there]
    dsimp only
    rw [kind, lexeme]

mutual

theorem respell_words (words : tokens.map Token.word = others.map Token.word) :
    ∀ tree : Tree, Node.respell others tree = Node.respell tokens tree
  | .leaf kind lexeme start stop => leaf_words words kind lexeme start stop
  | .branch name start stop children =>
    congrArg (Node.branch name start stop) (respellAll_words words children)

theorem respellAll_words (words : tokens.map Token.word = others.map Token.word) :
    ∀ trees : List Tree, Node.respellAll others trees = Node.respellAll tokens trees
  | [] => rfl
  | tree :: rest => congrArg₂ List.cons (respell_words words tree) (respellAll_words words rest)

end

theorem state_respell_words (words : tokens.map Token.word = others.map Token.word)
    (state : State) : state.respell others = (state.respell tokens).reading others := by
  have frames : Frame.respell others = Frame.respell tokens :=
    funext fun frame => congrArg (fun children => { frame with children := children })
      (respellAll_words words frame.children)
  have nodes : Node.respell others = Node.respell tokens := funext (respell_words words)
  unfold State.respell
  rw [frames, nodes]
  rfl

theorem Reached.respell_self (reached : machine.Reached tokens goal state) :
    state.respell tokens = state := by
  have blurred : List.Forall₂ machine.grammar.Blurs tokens tokens :=
    List.forall₂_same.mpr fun token _ => .refl _ token
  induction reached with
  | goal => exact (congrArg Outcome.after (machine.pushGoal_respell tokens tokens goal)).symm
  | step reached ih =>
    have stepped := (step_respell blurred reached.based.installed).2
    rw [ih] at stepped
    exact stepped.symm
  | @backtrack state _ ih =>
    have back := machine.backtrack_respell tokens state
    rw [ih] at back
    exact (congrArg Outcome.after back).symm
  | run reached ih =>
    have run := (reached.run_respell blurred).2
    rw [ih] at run
    exact run.symm

theorem blurred_words (words : tokens.map Token.word = others.map Token.word) :
    List.Forall₂ machine.grammar.Blurs tokens others := by
  rw [← List.forall₂_eq_eq_eq, List.forall₂_map_left_iff, List.forall₂_map_right_iff] at words
  exact words.imp fun _ _ => Grammar.Blurs.of_word

/-- Where no terminal can tell the tokens apart, the machine does the same for every goal, call by
call, and only the leaves are spelled otherwise. Where not even the words are others, the leaves are
the same, so that lines and columns have no say at all. -/
theorem echoes_of_blurs (blurred : List.Forall₂ machine.grammar.Blurs tokens others)
    (goal : String) :
    machine.Echoes tokens others goal ∧
      ∀ twins : List Token, tokens.map Token.word = twins.map Token.word →
        machine.Echoes tokens twins goal ∧
          ∀ state, machine.Reached tokens goal state → state.respell twins = state.reading twins := by
  refine ⟨blurred_echoes blurred goal, fun twins words => ⟨?_, fun state reached => ?_⟩⟩
  · exact blurred_echoes (blurred_words words) goal
  · rw [state_respell_words words, reached.respell_self]

/-- Brackets are told by their lexemes, so that a pair of another kind makes the same tree with
leaves of that kind. A pair at another place makes the same tree. -/
theorem echoes_of_blurs_marks :
    let machine := Brackets.machine 2
    let words := Brackets.tokens ["a", "b"]
    let marks : List Token := [⟨"a", "MARK", 2, 1⟩, ⟨"b", "MARK", 2, 2⟩]
    let moved : List Token := [⟨"a", "WORD", 7, 3⟩, ⟨"b", "WORD", 9, 1⟩]
    List.Forall₂ machine.grammar.Blurs words marks ∧
      (machine.derive "S" words).after.result = some (.branch "S" 0 2
        [.leaf "WORD" "a" 0 1, .branch "S" 1 1 [], .leaf "WORD" "b" 1 2]) ∧
      (machine.derive "S" marks).after.result = some (.branch "S" 0 2
        [.leaf "MARK" "a" 0 1, .branch "S" 1 1 [], .leaf "MARK" "b" 1 2]) ∧
      machine.Echoes words marks "S" ∧ words.map Token.word = moved.map Token.word ∧
      machine.Echoes words moved "S" ∧
      (machine.derive "S" words).after.respell moved =
        (machine.derive "S" words).after.reading moved := by
  intro machine words marks moved
  have blurred : List.Forall₂ machine.grammar.Blurs words marks :=
    .cons (by decide) (.cons (by decide) .nil)
  have same : words.map Token.word = moved.map Token.word := rfl
  obtain ⟨echoes, twins⟩ := echoes_of_blurs blurred "S"
  obtain ⟨still, reached⟩ := twins moved same
  exact ⟨blurred, by cbv, by cbv, echoes, same, still, reached _ derive_reached⟩

end Echoes

end Machine

end Descent
