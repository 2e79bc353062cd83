import Descent.Machine.Measure

/-! Derivation by recursion, with ordered choice.

A nonterminal tries its productions from the first that the token predicts. What
is lost where it began may be tried in another way, and what is lost further on is
lost for good. The stack of the machine is the depth of the recursion here.
-/

set_option autoImplicit false

namespace Descent

abbrev Spot (tokens : List Token) := Fin (tokens.length + 1)

/-- What comes of an attempt: a value and the place where it stops, the place where
it is lost, or a derivation that is too deep. -/
inductive Answer (tokens : List Token) (Value : Type) where
  | derived (value : Value) (stop : Spot tokens)
  | lost (spot : Spot tokens)
  | overflow (exceeded : DepthExceeded)

namespace Answer

variable {tokens : List Token} {Value Other : Type}

def follow (answer : Answer tokens Value) (next : Value → Spot tokens → Answer tokens Other) :
    Answer tokens Other :=
  match answer with
  | derived value stop => next value stop
  | lost spot => lost spot
  | overflow exceeded => overflow exceeded

def otherwise (answer : Answer tokens Value) (start : Spot tokens)
    (other : Unit → Answer tokens Value) : Answer tokens Value :=
  match answer with
  | lost spot => if spot = start then other () else lost spot
  | derived value stop => derived value stop
  | overflow exceeded => overflow exceeded

theorem otherwise_start (spot : Spot tokens) (other : Unit → Answer tokens Value) :
    (lost spot).otherwise spot other = other () := if_pos rfl

theorem otherwise_apart {place start : Spot tokens} (apart : place ≠ start)
    (other : Unit → Answer tokens Value) : (lost place).otherwise start other = lost place :=
  if_neg apart

theorem otherwise_lost (answer : Answer tokens Value) (spot : Spot tokens) :
    answer.otherwise spot (fun _ => lost spot) = answer := by
  cases answer with
  | derived value stop => rfl
  | overflow exceeded => rfl
  | lost place =>
    by_cases same : place = spot
    · rw [same, otherwise_start]
    · exact otherwise_apart same _

/-- The answer of a whole run, the tree of the goal and the place that was reached. -/
def report : Answer tokens Tree → Except Fault Bool × Option Tree × Nat
  | derived tree stop => (.ok (decide (stop.val = tokens.length)), some tree, stop)
  | lost spot => (.ok false, none, spot)
  | overflow exceeded => (.error (.depthExceeded exceeded), none, exceeded.cursor)

end Answer

namespace Recursion

variable {tokens : List Token}

def leaf? (terminal : Terminal) (cursor : Spot tokens) : Option (Tree × Spot tokens) :=
  if inside : cursor.val < tokens.length then
    let token := tokens[cursor.val]
    if terminal.accepts token then
      some (.leaf token.kind token.lexeme cursor (cursor + 1),
        ⟨cursor + 1, Nat.succ_lt_succ inside⟩)
    else none
  else none

/-- Expansions after one that consumed tokens, until one does not. -/
def repeated (expand : Spot tokens → Answer tokens Tree) (trees : List Tree)
    (cursor : Spot tokens) : Answer tokens (List Tree) :=
  match expand cursor with
  | .derived tree stop =>
    if cursor < stop then repeated expand (trees ++ [tree]) stop else .derived trees stop
  | .lost spot => if spot = cursor then .derived trees cursor else .lost spot
  | .overflow exceeded => .overflow exceeded
termination_by tokens.length - cursor
decreasing_by
  have ahead : cursor.val < stop.val := by assumption
  have := stop.isLt
  omega

def slot (expand : String → Spot tokens → Answer tokens Tree) (element : Element)
    (cursor : Spot tokens) : Answer tokens (List Tree) :=
  match element with
  | .required (.terminal terminal) =>
    match leaf? terminal cursor with
    | some (leaf, stop) => .derived [leaf] stop
    | none => .lost cursor
  | .required (.nonTerminal symbol) =>
    (expand symbol.name cursor).follow fun tree stop =>
      if cursor < stop then repeated (expand symbol.name) [tree] stop else .derived [tree] stop
  | .optional none => .derived [] cursor
  | .optional (some (.terminal terminal)) =>
    match leaf? terminal cursor with
    | some (leaf, stop) => .derived [leaf] stop
    | none => .derived [] cursor
  | .optional (some (.nonTerminal symbol)) =>
    ((expand symbol.name cursor).follow fun tree stop => .derived [tree] stop).otherwise cursor
      fun _ => .derived [] cursor

def sequence (expand : String → Spot tokens → Answer tokens Tree) :
    List Element → Spot tokens → Answer tokens (List Tree)
  | [], cursor => .derived [] cursor
  | element :: rest, cursor =>
    (slot expand element cursor).follow fun trees stop =>
      (sequence expand rest stop).follow fun more last => .derived (trees ++ more) last

/-- The first of some productions that is not lost where it began. -/
def choice (expand : String → Spot tokens → Answer tokens Tree) :
    List Production → Spot tokens → Answer tokens (List Tree)
  | [], cursor => .lost cursor
  | production :: others, cursor =>
    (sequence expand production cursor).otherwise cursor fun _ => choice expand others cursor

end Recursion

namespace Machine

/-- The first production that the token predicts, or else the first of all. -/
def foremost (machine : Machine) (symbol : String) (token : Option Token) : Nat :=
  match token with
  | none => 0
  | some token =>
    ((machine.table symbol).findIdx? fun production => machine.predicts production token).getD 0

-- Nothing but the room on the stack makes this end: a nonterminal may call itself at the
-- place where it began, and then it calls itself until there is no room.
/-- The tree of a nonterminal that begins at a place, under the expansions `below`. -/
def descend (machine : Machine) (tokens : List Token) (below : List String) (symbol : String)
    (cursor : Spot tokens) : Answer tokens Tree :=
  if machine.maxDepth ≤ below.length then .overflow ⟨machine.maxDepth, cursor, below⟩
  else
    let productions := (machine.table symbol).drop (machine.foremost symbol tokens[cursor.val]?)
    (Recursion.choice (fun called spot => machine.descend tokens (below ++ [symbol]) called spot)
      productions cursor).follow fun children stop =>
        .derived (.branch symbol cursor stop children) stop
termination_by machine.maxDepth - below.length
decreasing_by simp only [List.length_append, List.length_singleton]; omega

end Machine

end Descent
