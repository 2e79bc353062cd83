import Descent.Proofs.Opening.Productions
import Descent.Proofs.Recursion.Slots

/-! How the recursion goes where the next token begins nothing.

No element that is tried consumes the token, so that the recursion stays where it began. It
finds something empty if the openings of the grammar say that there is something, unless it
is too deep before that. A nonterminal that can neither begin nor be empty is always too deep.
-/

set_option autoImplicit false

namespace Descent

/-- No room was left at that place, under as many nonterminals as there is room for. -/
structure DepthExceeded.At (exceeded : DepthExceeded) (depth cursor : Nat) : Prop where
  maxDepth : exceeded.maxDepth = depth
  cursor : exceeded.cursor = cursor
  symbols : exceeded.symbols.length = depth

namespace Answer

/-- Something empty is derived if there is something, and else the attempt is lost where it
began. Both may be too deep. -/
inductive Idles {tokens : List Token} {Value : Type} (depth : Nat) (cursor : Spot tokens)
    (possible : Prop) : Answer tokens Value → Prop where
  | derived {value : Value} (holds : possible) : Idles depth cursor possible (.derived value cursor)
  | lost (fails : ¬possible) : Idles depth cursor possible (.lost cursor)
  | overflow {exceeded : DepthExceeded} (deep : exceeded.At depth cursor) :
      Idles depth cursor possible (.overflow exceeded)

/-- The attempt is too deep before it consumes anything. -/
inductive Deep {tokens : List Token} {Value : Type} (depth : Nat) (cursor : Spot tokens) :
    Answer tokens Value → Prop where
  | overflow {exceeded : DepthExceeded} (deep : exceeded.At depth cursor) :
      Deep depth cursor (.overflow exceeded)

variable {tokens : List Token} {Value Other : Type} {answer : Answer tokens Value} {depth : Nat}
  {cursor : Spot tokens} {possible after : Prop}

theorem Idles.congr (idles : answer.Idles depth cursor possible) (same : possible ↔ after) :
    answer.Idles depth cursor after := by
  cases idles with
  | derived holds => exact .derived (same.mp holds)
  | lost fails => exact .lost fun holds => fails (same.mpr holds)
  | overflow deep => exact .overflow deep

theorem Idles.follow {next : Value → Spot tokens → Answer tokens Other}
    (idles : answer.Idles depth cursor possible)
    (rest : possible → ∀ value, (next value cursor).Idles depth cursor after) :
    (answer.follow next).Idles depth cursor (possible ∧ after) := by
  cases idles with
  | derived holds => exact (rest holds _).congr (by simp [holds])
  | lost fails => exact .lost fun both => fails both.1
  | overflow deep => exact .overflow deep

theorem Idles.map {build : Value → Spot tokens → Other}
    (idles : answer.Idles depth cursor possible) :
    (answer.follow fun value stop => .derived (build value stop) stop).Idles depth cursor
      possible := by
  cases idles with
  | derived holds => exact .derived holds
  | lost fails => exact .lost fails
  | overflow deep => exact .overflow deep

theorem Idles.otherwise {other : Unit → Answer tokens Value}
    (idles : answer.Idles depth cursor possible) (others : (other ()).Idles depth cursor after) :
    (answer.otherwise cursor other).Idles depth cursor (possible ∨ after) := by
  cases idles with
  | derived holds => exact .derived (.inl holds)
  | lost fails =>
    rw [otherwise_start]
    exact others.congr (by simp [fails])
  | overflow deep => exact .overflow deep

theorem Idles.forgo {value : Value} (idles : answer.Idles depth cursor possible) :
    (answer.otherwise cursor fun _ => .derived value cursor).Idles depth cursor True := by
  have absent : (Answer.derived value cursor).Idles depth cursor True := .derived trivial
  exact (idles.otherwise absent).congr (or_iff_right_of_imp fun _ => trivial)

theorem Deep.follow {next : Value → Spot tokens → Answer tokens Other}
    (deep : answer.Deep depth cursor) : (answer.follow next).Deep depth cursor := by
  cases deep with
  | overflow deep => exact .overflow deep

theorem Deep.otherwise {start : Spot tokens} {other : Unit → Answer tokens Value}
    (deep : answer.Deep depth cursor) : (answer.otherwise start other).Deep depth cursor := by
  cases deep with
  | overflow deep => exact .overflow deep

theorem Idles.deep {next : Value → Spot tokens → Answer tokens Other}
    (idles : answer.Idles depth cursor possible) (holds : possible)
    (rest : ∀ value, (next value cursor).Deep depth cursor) :
    (answer.follow next).Deep depth cursor := by
  cases idles with
  | derived => exact rest _
  | lost fails => exact absurd holds fails
  | overflow deep => exact .overflow deep

end Answer

namespace Grammar

/-- The token at a place, if there is one, begins no expansion of the nonterminal. -/
def Refuses (grammar : Grammar) (tokens : List Token) (symbol : String) (cursor : Spot tokens) :
    Prop :=
  ∀ token, tokens[cursor.val]? = some token →
    (grammar.opening symbol).first.accepts token = false

/-- Nothing begins the nonterminal, and it cannot be empty. -/
structure Hopeless (grammar : Grammar) (symbol : String) : Prop where
  known : grammar.Knows symbol
  first : (grammar.opening symbol).first.criteria = []
  filled : (grammar.opening symbol).nullable = false

variable {grammar : Grammar} {tokens : List Token} {head : String} {front rest : List Element}
  {element : Element} {symbol : NonTerminal} {cursor : Spot tokens}

theorem Hopeless.refuses (hopeless : grammar.Hopeless head) : grammar.Refuses tokens head cursor :=
  fun token _ => Bool.eq_false_iff.mpr fun accepted => by
    obtain ⟨_, member, _⟩ := (TerminalSet.accepts_iff _ token).mp accepted
    rw [hopeless.first] at member
    cases member

/-- What the nonterminal refuses is refused by its elements, as long as none before needs a
token. -/
theorem Refuses.inner (refuses : grammar.Refuses tokens head cursor)
    (listed : grammar.Lists head (front ++ element :: rest)) (vanishes : grammar.Vanishes front) :
    ∀ token, tokens[cursor.val]? = some token →
      (grammar.openings.ofElement element).first.accepts token = false := fun token there =>
  Bool.eq_false_iff.mpr fun accepted => by
    have begins := accepts_of_vanishes listed vanishes accepted
    rw [refuses token there] at begins
    cases begins

/-- The first element that needs a token is a nonterminal, and as hopeless. -/
theorem Hopeless.needed (hopeless : grammar.Hopeless head)
    (listed : grammar.Lists head (front ++ element :: rest)) (vanishes : grammar.Vanishes front)
    (needs : (grammar.openings.ofElement element).nullable = false) :
    ∃ symbol : NonTerminal, element = .required (.nonTerminal symbol) ∧
      grammar.Hopeless symbol.name := by
  have none : (grammar.openings.ofElement element).first.criteria = [] := by
    refine List.eq_nil_iff_forall_not_mem.mpr fun criterion member => ?_
    have begins := mem_first_of_vanishes listed vanishes member
    rw [hopeless.first] at begins
    cases begins
  rcases element with (terminal | symbol) | (_ | symbol)
  · cases none
  · obtain ⟨rule, member, _, listed⟩ := listed
    have inside : Element.required (.nonTerminal symbol) ∈
      front ++ .required (.nonTerminal symbol) :: rest := by simp
    exact ⟨symbol, rfl, knows_of_mention member listed inside rfl, none, needs⟩
  · cases needs
  · cases needs

end Grammar

namespace Recursion

variable {grammar : Grammar} {tokens : List Token}
  {expand : String → Spot tokens → Answer tokens Tree} {depth : Nat} {cursor : Spot tokens}
  {head : String} {front elements : List Element} {element : Element}

theorem choice_idles {productions : List Production}
    (all : ∀ production ∈ productions,
      (sequence expand production cursor).Idles depth cursor (grammar.Vanishes production)) :
    (choice expand productions cursor).Idles depth cursor
      (∃ production ∈ productions, grammar.Vanishes production) := by
  induction productions with
  | nil => exact .lost nofun
  | cons production others ih =>
    obtain ⟨first, later⟩ := List.forall_mem_cons.mp all
    exact (first.otherwise (ih later)).congr (by simp)

section Expansions

-- Expansions of nonterminals that refuse the next token are taken to idle. Those that are
-- one deeper in the recursion do.
variable (idle : ∀ {symbol}, grammar.Refuses tokens symbol cursor →
  (expand symbol cursor).Idles depth cursor ((grammar.opening symbol).nullable = true))

include idle

theorem slot_idles
    (refused : ∀ token, tokens[cursor.val]? = some token →
      (grammar.openings.ofElement element).first.accepts token = false) :
    (slot expand element cursor).Idles depth cursor
      ((grammar.openings.ofElement element).nullable = true) := by
  have unmatched {terminal : Terminal} (refused : ∀ token, tokens[cursor.val]? = some token →
      (TerminalSet.single terminal).accepts token = false) : leaf? terminal cursor = none :=
    Machine.leaf?_mismatch cursor fun token there => by simpa using refused token there
  rcases element with (terminal | symbol) | (_ | terminal | symbol)
  · simp only [slot, unmatched refused]
    exact .lost Bool.false_ne_true
  · refine ((idle refused).follow fun _ tree => ?_).congr (and_iff_left trivial)
    rw [if_neg (lt_irrefl cursor)]
    exact .derived trivial
  · exact .derived rfl
  · simp only [slot, unmatched refused]
    exact .derived rfl
  · simp only [slot]
    exact (idle refused).map.forgo.congr (iff_of_true trivial rfl)

theorem sequence_idles
    (refuses : grammar.Refuses tokens head cursor)
    (listed : grammar.Lists head (front ++ elements)) (vanishes : grammar.Vanishes front) :
    (sequence expand elements cursor).Idles depth cursor (grammar.Vanishes elements) := by
  -- Along the elements, for as long as none needs a token.
  induction elements generalizing front with
  | nil => exact .derived nofun
  | cons element rest ih =>
    have slot := slot_idles idle (refuses.inner listed vanishes)
    have both : (sequence expand (element :: rest) cursor).Idles depth cursor
        (_ ∧ grammar.Vanishes rest) := slot.follow fun null trees =>
      (ih (by simpa using listed) (vanishes.concat null)).map
    exact both.congr Grammar.vanishes_cons.symm

theorem sequence_deep
    (deep : ∀ {symbol}, grammar.Hopeless symbol → (expand symbol cursor).Deep depth cursor)
    (hopeless : grammar.Hopeless head) (listed : grammar.Lists head (front ++ elements))
    (vanishes : grammar.Vanishes front) : (sequence expand elements cursor).Deep depth cursor := by
  induction elements generalizing front with
  | nil =>
    -- A production of elements that need no token would make its nonterminal nullable.
    rw [List.append_nil] at listed
    have null := Grammar.nullable_iff_vanishes.mpr ⟨front, listed, vanishes⟩
    rw [hopeless.filled] at null
    cases null
  | cons element rest ih =>
    by_cases null : (grammar.openings.ofElement element).nullable = true
    · refine (slot_idles idle (hopeless.refuses.inner listed vanishes)).deep null fun trees => ?_
      exact (ih (by simpa using listed) (vanishes.concat null)).follow
    · obtain ⟨symbol, rfl, later⟩ := hopeless.needed listed vanishes (by simpa using null)
      exact (deep later).follow.follow

end Expansions

end Recursion

namespace Machine

variable {machine : Machine} {tokens : List Token} {symbol : String} {cursor : Spot tokens}
  {below : List String}

theorem predicts_cons (element : Element) (rest : Production) (token : Token) :
    machine.predicts (element :: rest) token =
      (machine.grammar.openings.ofElement element).first.accepts token := by
  rcases element with (terminal | symbol) | (_ | terminal | symbol)
  · exact (TerminalSet.accepts_single terminal token).symm
  · rfl
  · rfl
  · exact (TerminalSet.accepts_single terminal token).symm
  · rfl

theorem exists_of_predicts {production : Production} {token : Token}
    (predicted : machine.predicts production token = true) :
    ∃ element rest, production = element :: rest ∧
      (machine.grammar.openings.ofElement element).first.accepts token = true := by
  cases production with
  | nil => cases predicted
  | cons element rest =>
    rw [predicts_cons] at predicted
    exact ⟨element, rest, rfl, predicted⟩

theorem exists_of_predicted {frame : Frame} {lookahead : Option Token} {production : Nat}
    (predicted : machine.predicted? (machine.table frame.symbol) lookahead frame =
      some production) :
    ∃ token element rest, lookahead = some token ∧ frame.production = none ∧
      (machine.table frame.symbol)[production]? = some (element :: rest) ∧
      (machine.grammar.openings.ofElement element).first.accepts token = true := by
  unfold predicted? at predicted
  split at predicted
  · rename_i token unselected
    obtain ⟨inside, begins, _⟩ := List.findIdx?_eq_some_iff_getElem.mp predicted
    obtain ⟨element, rest, split, accepted⟩ := exists_of_predicts begins
    exact ⟨token, element, rest, rfl, unselected, by rw [List.getElem?_eq_getElem inside, split],
      accepted⟩
  · cases predicted

theorem foremost_refused (refuses : machine.grammar.Refuses tokens symbol cursor) :
    machine.foremost symbol tokens[cursor.val]? = 0 := by
  unfold foremost
  cases there : tokens[cursor.val]? with
  | none => rfl
  | some token =>
    have none : ((machine.table symbol).findIdx? fun production =>
        machine.predicts production token) = none := by
      refine List.findIdx?_eq_none_iff.mpr fun production member => Bool.eq_false_iff.mpr ?_
      intro predicted
      obtain ⟨element, rest, rfl, accepted⟩ := exists_of_predicts predicted
      have listed : machine.grammar.Lists symbol ([] ++ element :: rest) := mem_table.mp member
      rw [refuses.inner listed nofun token there] at accepted
      cases accepted
    dsimp only
    rw [none]
    rfl

theorem descend_refused {motive : Answer tokens Tree → Prop}
    (fits : below.length ≤ machine.maxDepth)
    (refuses : machine.grammar.Refuses tokens symbol cursor)
    (full : ∀ {exceeded : DepthExceeded}, exceeded.At machine.maxDepth cursor →
      motive (.overflow exceeded))
    (room : (below ++ [symbol]).length ≤ machine.maxDepth →
      motive ((Recursion.choice
        (fun called spot => machine.descend tokens (below ++ [symbol]) called spot)
        (machine.table symbol) cursor).follow fun children stop =>
          .derived (.branch symbol cursor stop children) stop)) :
    motive (machine.descend tokens below symbol cursor) := by
  rw [descend]
  split
  · rename_i filled
    exact full ⟨rfl, rfl, Nat.le_antisymm fits filled⟩
  · rename_i open_
    rw [foremost_refused refuses, List.drop_zero]
    refine room ?_
    rw [List.length_append, List.length_singleton]
    exact Nat.lt_of_not_le open_

theorem room_induct {depth : Nat} {motive : (below : List String) → below.length ≤ depth → Prop}
    (step : ∀ (below : List String) (fits : below.length ≤ depth),
      (∀ symbol (room : (below ++ [symbol]).length ≤ depth), motive (below ++ [symbol]) room) →
        motive below fits)
    (below : List String) (fits : below.length ≤ depth) : motive below fits := by
  induction left : depth - below.length using Nat.strongRecOn generalizing below with
  | ind left ih =>
    refine step below fits fun symbol room => ih _ ?_ _ room rfl
    simp only [List.length_append, List.length_singleton] at room ⊢
    omega

-- Nothing that lies below matters here except how much room it leaves.
/-- Where the next token begins nothing, the recursion finds something empty exactly if the
nonterminal is nullable. -/
theorem descend_idles (fits : below.length ≤ machine.maxDepth)
    (refuses : machine.grammar.Refuses tokens symbol cursor) :
    (machine.descend tokens below symbol cursor).Idles machine.maxDepth cursor
      ((machine.grammar.opening symbol).nullable = true) := by
  induction below, fits using room_induct generalizing symbol with
  | step below fits ih =>
    refine descend_refused fits refuses .overflow fun room => ?_
    have chosen := Recursion.choice_idles fun production member =>
      have listed : machine.grammar.Lists symbol ([] ++ production) := mem_table.mp member
      Recursion.sequence_idles (ih symbol room) refuses listed nofun
    refine chosen.map.congr ?_
    simp only [mem_table, Grammar.nullable_iff_vanishes]

/-- A nonterminal that can neither begin nor be empty is always too deep. -/
theorem descend_deep (fits : below.length ≤ machine.maxDepth)
    (hopeless : machine.grammar.Hopeless symbol) :
    (machine.descend tokens below symbol cursor).Deep machine.maxDepth cursor := by
  induction below, fits using room_induct generalizing symbol with
  | step below fits ih =>
    refine descend_refused fits hopeless.refuses .overflow fun room => ?_
    -- The first production of all is tried first, and it is never left.
    obtain ⟨production, others, table⟩ := List.exists_cons_of_ne_nil (table_ne_nil hopeless.known)
    have listed : machine.grammar.Lists symbol ([] ++ production) := mem_table.mp (by simp [table])
    rw [table]
    have tried := Recursion.sequence_deep (descend_idles room) (ih symbol room) hopeless listed
      nofun
    exact tried.otherwise.follow

end Machine

end Descent
