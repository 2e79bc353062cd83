import Descent.Machine.Record

/-! The parsing machine: a predictive pushdown machine that backtracks.

A step looks at the frame on top of the stack and does one thing. It picks a
production, matches a terminal, pushes a nonterminal, or pops a finished frame.
A backtrack goes down to the nearest frame that can do something else. Tokens are
never given back, so a frame that has consumed one keeps its production. A
required nonterminal is expanded again as long as its expansions consume tokens.
-/

set_option autoImplicit false

namespace Descent

structure Machine where
  grammar : Grammar
  maxDepth : Nat

/-- What the frame on top does next. -/
inductive Move where
  | complete
  | shift (token : Token)
  | leave
  | enter (symbol : String) (origin : Origin)
  | attempt (symbol : String)
  | stuck (expected : List Expectation)
  deriving Repr

namespace Machine

def defaultDepth : Int := 50

def create (grammar : Grammar) (maxDepth : Int) : Except Fault Machine :=
  if maxDepth < 1 then .error (.badDepth maxDepth) else .ok ⟨grammar, maxDepth.toNat⟩

/-- Whether a production can begin with the token, going by its first element. -/
def predicts (machine : Machine) (production : Production) (token : Token) : Bool :=
  match production.head?.bind Element.symbol? with
  | none => false
  | some (.terminal terminal) => terminal.accepts token
  | some (.nonTerminal symbol) => (machine.grammar.opening symbol.name).first.accepts token

/-- The first production that predicts the token, for a frame that has none yet. -/
def predicted? (machine : Machine) (productions : List Production) (token : Option Token)
    (frame : Frame) : Option Nat :=
  match frame.production, token with
  | none, some token => productions.findIdx? fun production => machine.predicts production token
  | _, _ => none

def expectations (machine : Machine) (symbol : String) : List Expectation :=
  (machine.grammar.opening symbol).first.criteria.map .terminal

/-- The move that the production and the lookahead token call for. -/
def move (machine : Machine) (productions : List Production) (token : Option Token)
    (frame : Frame) : Move :=
  match frame.production.bind (productions[·]?) with
  | none => .stuck (machine.expectations frame.symbol)
  | some production =>
    match production[frame.element]? with
    | none => .complete
    | some (.required (.terminal terminal)) =>
      match token with
      | some token =>
        if terminal.accepts token then .shift token else .stuck [.terminal terminal.criterion]
      | none => .stuck [.terminal terminal.criterion]
    | some (.required (.nonTerminal symbol)) =>
      match frame.progressed with
      | none => .enter symbol.name .expand
      | some true => .enter symbol.name .again
      | some false => .leave
    | some (.optional none) => .leave
    | some (.optional (some (.terminal terminal))) =>
      match token with
      | some token => if terminal.accepts token then .shift token else .leave
      | none => .leave
    | some (.optional (some (.nonTerminal symbol))) => .attempt symbol.name

/-- Push a frame, unless the same expansion is under way. The answer says whether
a frame was pushed. -/
def push (machine : Machine) (symbol : String) (origin : Origin) (state : State) :
    Outcome Bool :=
  let marker := state.marker symbol
  if marker ∈ state.markers then ⟨.ok false, state, [.refused symbol state.cursor]⟩
  else if machine.maxDepth ≤ state.stack.length then
    .raise state (.depthExceeded ⟨machine.maxDepth, state.cursor, state.symbols⟩)
  else .done { state with
      markers := marker :: state.markers
      stack := ⟨symbol, marker, state.cursor, origin, none, 0, none, []⟩ :: state.stack } true

/-- The frame above has finished: its tree goes to the parent, except that of a
repetition which consumed nothing. A required slot learns whether tokens were
consumed. -/
def adopt (cursor : Nat) (child : Frame) (parent : Frame) : Frame :=
  let tree := Node.branch child.symbol child.start cursor child.children
  let progressed := decide (child.start < cursor)
  { parent with
    progressed := if child.origin = .optional then parent.progressed else some progressed
    children :=
      if progressed = true ∨ child.origin ≠ .again then parent.children ++ [tree]
      else parent.children }

def complete (state : State) (frame : Frame) (below : List Frame) : Outcome Bool :=
  if frame.marker ∈ state.markers then
    let popped := { state with markers := state.markers.erase frame.marker }
    match below with
    | [] =>
      .done { popped with
        stack := []
        result := some (.branch frame.symbol frame.start state.cursor frame.children) } true
    | parent :: rest =>
      .done { popped with stack := adopt state.cursor frame parent :: rest } true
  else .raise { state with stack := below } .missingMarker

/-- The token becomes a leaf of the frame, and the cursor moves on. -/
def shift (state : State) (token : Token) (frame : Frame) (below : List Frame) : State :=
  let leaf := Node.leaf token.kind token.lexeme state.cursor (state.cursor + 1)
  { state with
    cursor := state.cursor + 1
    stack := { frame.advance with children := frame.children ++ [leaf] } :: below }

def stuck (state : State) (frame : Frame) (below : List Frame) (expected : List Expectation) :
    State :=
  let held := { state with stack := frame :: below }
  held.fail held.symbols expected

/-- Make a move of the frame on top. False says that it cannot go on. -/
def perform (machine : Machine) (state : State) (frame : Frame) (below : List Frame) :
    Move → Outcome Bool
  | .complete => complete state frame below
  | .shift token => .done (shift state token frame below) true
  | .leave => .done { state with stack := frame.advance :: below } true
  | .enter symbol origin =>
    let slot := { frame with progressed := none }
    let pushed := machine.push symbol origin { state with stack := slot :: below }
    match pushed.result with
    | .ok false =>
      { pushed with after := stuck pushed.after slot below (machine.expectations symbol) }
    | _ => pushed
  | .attempt symbol =>
    let pushed := machine.push symbol .optional { state with stack := frame.advance :: below }
    match pushed.result with
    | .ok _ => { pushed with result := .ok true }
    | .error _ => pushed
  | .stuck expected => .done (stuck state frame below expected) false

def act (machine : Machine) (productions : List Production) (token : Option Token)
    (state : State) (frame : Frame) (below : List Frame) : Outcome Bool :=
  match machine.predicted? productions token frame with
  | some production =>
    let chosen := frame.select production
    machine.perform (state.select frame below production) chosen below
      (machine.move productions token chosen)
  | none => machine.perform state frame below (machine.move productions token frame)

/-- One step. False says that it failed and that the machine has to backtrack. -/
def step (machine : Machine) (state : State) : Outcome Bool :=
  match state.stack with
  | [] => .raise state .emptyStack
  | frame :: below =>
    match machine.grammar.productionsOf frame.symbol, state.tokens with
    | .error unknown, _ => .raise state (.unknownSymbol unknown)
    | .ok _, none => .raise state .notInitialized
    | .ok productions, some tokens =>
      let token := tokens[state.cursor]?
      let record := Record.step (state.stack.take 5 |>.map Frame.symbol).reverse
        (token.map Token.lexeme) frame.production frame.element
      (machine.act productions token state frame below).following [record]

/-- Go down a stack to the nearest frame that can do something else, and drop the
frames above it. One that has consumed tokens can only be dropped. -/
def unwind (machine : Machine) (state : State) : List Frame → Outcome Bool
  | [] => .done { state with stack := [] } false
  | frame :: below =>
    match machine.grammar.productionsOf frame.symbol with
    | .error unknown => .raise { state with stack := frame :: below } (.unknownSymbol unknown)
    | .ok productions =>
      let committed := decide (frame.start < state.cursor)
      let next := frame.nextProduction
      if committed = false ∧ next < productions.length then
        ⟨.ok true, state.select frame below next, [.retried frame.symbol next]⟩
      else if frame.marker ∈ state.markers then
        let popped := { state with markers := state.markers.erase frame.marker }
        let abandoned := Record.abandoned frame.symbol state.cursor
        let absent := Record.absent frame.symbol frame.origin
        if frame.origin.tentative = true ∧ committed = false then
          match frame.origin, below with
          | .again, [] => ⟨.error .emptyStack, { popped with stack := [] }, [abandoned]⟩
          | .again, parent :: rest =>
            ⟨.ok true, { popped with stack := parent.advance :: rest }, [abandoned, absent]⟩
          | _, _ => ⟨.ok true, { popped with stack := below }, [abandoned, absent]⟩
        else (unwind machine popped below).following [abandoned]
      else .raise { state with stack := below } .missingMarker

/-- False says that nothing is left to try; the stack is empty then. -/
def backtrack (machine : Machine) (state : State) : Outcome Bool :=
  machine.unwind state state.stack

def round (machine : Machine) (state : State) : Outcome Bool :=
  let stepped := machine.step state
  match stepped.result with
  | .ok false => (machine.backtrack stepped.after).following stepped.records
  | _ => stepped

def pushGoal (machine : Machine) (symbol : String) (state : State) : Outcome Unit :=
  match state.tokens with
  | none => .raise state .notInitialized
  | some _ =>
    let pushed := machine.push symbol .goal state
    { pushed with result := pushed.result.map fun _ => () }

def pop (state : State) : Outcome Frame :=
  match state.stack with
  | [] => .raise state .emptyStack
  | frame :: below =>
    if frame.marker ∈ state.markers then
      .done { state with stack := below, markers := state.markers.erase frame.marker } frame
    else .raise { state with stack := below } .missingMarker

/-- Take the top frame off the stack and leave its marker behind. -/
def drop (state : State) : Outcome Frame :=
  match state.stack with
  | [] => .raise state .emptyStack
  | frame :: below => .done { state with stack := below } frame

def lookahead (state : State) : Except Fault (Option Token) :=
  match state.tokens with
  | none => .error .notInitialized
  | some tokens => .ok tokens[state.cursor]?

end Machine

end Descent
