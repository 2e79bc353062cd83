import Descent.Grammar
import Descent.Text.Quoted
import Descent.Tree

/-! What the parsing machine holds, what it reports, and how an operation ends.

The stack has its top first. Each frame is one nonterminal under expansion. The
markers say which expansions are under way, so that none is begun twice in one
context and at one place. The trace has the latest choice first.
-/

set_option autoImplicit false

namespace Descent

inductive Origin where
  | goal
  | expand
  | again
  | optional
  deriving DecidableEq, Repr

namespace Origin

def text : Origin → String
  | goal => "goal"
  | expand => "expand"
  | again => "repeat"
  | optional => "optional"

def ofText? (text : String) : Option Origin :=
  [goal, expand, again, optional].find? fun origin => origin.text == text

/-- A frame that its parent can do without. -/
def tentative : Origin → Bool
  | again | optional => true
  | goal | expand => false

end Origin

/-- An expansion under way: its nonterminal, where it began, and the nonterminals
under expansion around it, the nearest first. -/
structure Marker where
  symbol : String
  cursor : Nat
  context : List String
  deriving DecidableEq, Repr

def Marker.path (marker : Marker) : List String := marker.context.reverse

def Marker.order (a b : Marker) : Ordering :=
  (compare a.symbol b.symbol).then ((compare a.cursor b.cursor).then (compare a.path b.path))

/-- `progressed` says whether the last child that completed for the current
element consumed a token, if one has completed. -/
structure Frame where
  symbol : String
  marker : Marker
  start : Nat
  origin : Origin
  production : Option Nat
  element : Nat
  progressed : Option Bool
  children : List Tree
  deriving Repr

namespace Frame

def select (frame : Frame) (production : Nat) : Frame :=
  { frame with production := some production, element := 0, progressed := none, children := [] }

def advance (frame : Frame) : Frame :=
  { frame with element := frame.element + 1, progressed := none }

def nextProduction (frame : Frame) : Nat :=
  match frame.production with
  | none => 0
  | some production => production + 1

end Frame

structure Choice where
  symbol : String
  production : Nat
  cursor : Nat
  deriving DecidableEq, Repr

/-- Something that would have let a failed step go on. -/
inductive Expectation where
  | terminal (criterion : Criterion)
  | endOfInput
  deriving DecidableEq, Repr

def Expectation.display : Expectation → String
  | terminal criterion => criterion.display
  | endOfInput => "end of input"

/-- The furthest failure so far: where, under which nonterminals from the bottom
of the stack, and what was expected there. -/
structure Failure where
  position : Nat
  symbols : List String
  expected : List Expectation
  deriving DecidableEq, Repr

/-- The texts of what was expected, each once, in code point order. -/
def Failure.expectedTexts (failure : Failure) : List String :=
  (failure.expected.map Expectation.display).eraseDups.mergeSort fun a b => decide (a ≤ b)

theorem Failure.mem_expectedTexts {failure : Failure} {text : String} :
    text ∈ failure.expectedTexts ↔
      ∃ expectation ∈ failure.expected, expectation.display = text := by
  rw [expectedTexts, List.mem_mergeSort, List.mem_eraseDups, List.mem_map]

structure State where
  tokens : Option (List Token)
  cursor : Nat
  stack : List Frame
  markers : List Marker
  trace : List Choice
  result : Option Tree
  failure : Option Failure

namespace State

def blank : State := ⟨none, 0, [], [], [], none, none⟩

def initial (tokens : List Token) : State := { blank with tokens := some tokens }

/-- Nonterminals under expansion, from the bottom of the stack. -/
def symbols (state : State) : List String := (state.stack.map Frame.symbol).reverse

def marker (state : State) (symbol : String) : Marker :=
  ⟨symbol, state.cursor, state.stack.map Frame.symbol⟩

def sortedMarkers (state : State) : List Marker :=
  state.markers.mergeSort fun a b => (a.order b).isLE

def current? (state : State) : Option String := state.stack.head?.map Frame.symbol

/-- Record a failure at the cursor. One further on replaces what was recorded;
one at the same place adds to what was expected. -/
def fail (state : State) (symbols : List String) (expected : List Expectation) : State :=
  let fresh : Failure := ⟨state.cursor, symbols, expected.eraseDups⟩
  match state.failure with
  | none => { state with failure := some fresh }
  | some failure =>
    if failure.position < state.cursor then { state with failure := some fresh }
    else if failure.position = state.cursor then
      { state with failure := some { failure with
          symbols := symbols
          expected := failure.expected ++ fresh.expected.filter (· ∉ failure.expected) } }
    else state

def select (state : State) (frame : Frame) (below : List Frame) (production : Nat) : State :=
  { state with
    stack := frame.select production :: below
    trace := ⟨frame.symbol, production, state.cursor⟩ :: state.trace }

end State

structure DepthExceeded where
  maxDepth : Nat
  cursor : Nat
  symbols : List String
  deriving DecidableEq, Repr

def DepthExceeded.message (exceeded : DepthExceeded) : String :=
  "Maximum parser stack depth exceeded (" ++ toString exceeded.maxDepth ++ " frames)"

inductive Fault where
  | badDepth (maxDepth : Int)
  | notInitialized
  | unknownSymbol (unknown : UnknownSymbol)
  | unknownOrigin (text : String)
  | depthExceeded (exceeded : DepthExceeded)
  | emptyStack
  | missingMarker
  deriving DecidableEq, Repr

/-- There is no text for a frame or a marker that is not there. -/
def Fault.message? : Fault → Option String
  | badDepth maxDepth => some ("max_depth must be at least 1, not " ++ toString maxDepth)
  | notInitialized => some "The automaton must be initialized with tokens first"
  | unknownSymbol unknown => some unknown.message
  | unknownOrigin text => some (Text.quoted text ++ " is not a valid Origin")
  | depthExceeded exceeded => some exceeded.message
  | emptyStack | missingMarker => none

end Descent
