import Descent.Proofs.Predictive
import Descent.Proofs.Recursion.Idle

/-! How the recursion reads words where the next token decides.

A word of a nonterminal is read to its end if what comes after it may follow the
nonterminal. Where the next token begins no expansion, an expansion is lost at once, and
with that a repetition ends. A derivation may be too deep in both cases.
-/

set_option autoImplicit false

namespace Descent

def Spans (tokens : List Token) (start : Spot tokens) (word : List Token) (stop : Spot tokens) :
    Prop :=
  tokens.drop start = word ++ tokens.drop stop

namespace Spans

variable {tokens word front back : List Token} {token : Token} {start stop : Spot tokens}

theorem split (spans : Spans tokens start (front ++ back) stop) :
    ∃ middle, Spans tokens start front middle ∧ Spans tokens middle back stop := by
  have lengths := congrArg List.length spans
  simp only [List.length_drop, List.length_append] at lengths
  have inside := start.isLt
  have rest : tokens.drop (start + front.length) = back ++ tokens.drop stop := by
    rw [← List.drop_drop, spans, List.append_assoc, List.drop_left]
  refine ⟨⟨start + front.length, by omega⟩, ?_, rest⟩
  unfold Spans
  rw [rest, ← List.append_assoc]
  exact spans

theorem eq_of_nil (spans : Spans tokens start [] stop) : start = stop := by
  have lengths := congrArg List.length spans
  simp only [List.length_drop, List.nil_append] at lengths
  apply Fin.ext
  omega

theorem token_at (spans : Spans tokens start (token :: word) stop) :
    tokens[start.val]? = some token := by
  rw [← List.head?_drop, spans]
  rfl

theorem lt_of_cons (spans : Spans tokens start (token :: word) stop) : start < stop := by
  have lengths := congrArg List.length spans
  simp only [List.length_drop, List.length_append, List.length_cons] at lengths
  rw [Fin.lt_def]
  omega

end Spans

namespace Answer

variable {tokens : List Token} {Value Other : Type} {answer : Answer tokens Value}
  {start middle stop : Spot tokens}

/-- Something is derived up to the place, unless it is too deep. -/
inductive Reaches : Answer tokens Value → Spot tokens → Prop where
  | derived {value : Value} {stop : Spot tokens} : Reaches (.derived value stop) stop
  | overflow {exceeded : DepthExceeded} {stop : Spot tokens} : Reaches (.overflow exceeded) stop

/-- The attempt is lost where it began, unless it is too deep. -/
inductive Misses : Answer tokens Value → Spot tokens → Prop where
  | lost {start : Spot tokens} : Misses (.lost start) start
  | overflow {exceeded : DepthExceeded} {start : Spot tokens} : Misses (.overflow exceeded) start

theorem Reaches.follow {next : Value → Spot tokens → Answer tokens Other}
    (reaches : answer.Reaches middle) (rest : ∀ value, (next value middle).Reaches stop) :
    (answer.follow next).Reaches stop := by
  cases reaches with
  | derived => exact rest _
  | overflow => exact .overflow

theorem Reaches.otherwise {other : Unit → Answer tokens Value} (reaches : answer.Reaches stop) :
    (answer.otherwise start other).Reaches stop := by
  cases reaches with
  | derived => exact .derived
  | overflow => exact .overflow

theorem Misses.follow {next : Value → Spot tokens → Answer tokens Other}
    (misses : answer.Misses start) : (answer.follow next).Misses start := by
  cases misses with
  | lost => exact .lost
  | overflow => exact .overflow

theorem Misses.otherwise {other : Unit → Answer tokens Value} (misses : answer.Misses start)
    (others : (other ()).Misses start) : (answer.otherwise start other).Misses start := by
  cases misses with
  | lost =>
    rw [otherwise_start]
    exact others
  | overflow => exact .overflow

end Answer

theorem Recursion.choice_misses {tokens : List Token}
    {expand : String → Spot tokens → Answer tokens Tree} {productions : List Production}
    {cursor : Spot tokens}
    (all : ∀ production ∈ productions, (sequence expand production cursor).Misses cursor) :
    (choice expand productions cursor).Misses cursor := by
  induction productions with
  | nil => exact .lost
  | cons production others ih =>
    obtain ⟨first, later⟩ := List.forall_mem_cons.mp all
    exact first.otherwise (ih later)

namespace Grammar

/-- The token at a place, if there is one, can come after the nonterminal. -/
def Continues (grammar : Grammar) (tokens : List Token) (symbol : String) (stop : Spot tokens) :
    Prop :=
  ∀ token, tokens[stop.val]? = some token → grammar.MayFollow symbol token

/-- Expansions that read words, and are lost where none begins. -/
structure Reads (grammar : Grammar) (tokens : List Token)
    (expand : String → Spot tokens → Answer tokens Tree) : Prop where
  reaches : ∀ {symbol word cursor stop}, grammar.Generates symbol word →
    Spans tokens cursor word stop → grammar.Continues tokens symbol stop →
      (expand symbol cursor).Reaches stop
  misses : ∀ {symbol cursor}, grammar.Refuses tokens symbol cursor →
    (expand symbol cursor).Misses cursor

section Slots

variable {grammar : Grammar} {tokens : List Token}
  {expand : String → Spot tokens → Answer tokens Tree} {head : String} {production : Production}
  {symbol : NonTerminal} {cursor stop : Spot tokens}

theorem continues_parts (predictive : grammar.Predictive) (listed : grammar.Lists head production)
    (slot : Element.required (.nonTerminal symbol) ∈ production) {parts : List (List Token)}
    (words : ∀ part ∈ parts, grammar.Generates symbol.name part)
    (spans : Spans tokens cursor parts.flatten stop)
    (continues : grammar.Continues tokens symbol.name stop) :
    grammar.Continues tokens symbol.name cursor := by
  cases parts with
  | nil =>
    cases spans.eq_of_nil
    exact continues
  | cons part parts =>
    obtain ⟨token, tail, rfl, begins⟩ := (words part List.mem_cons_self).begins predictive
    rw [List.flatten_cons, List.cons_append] at spans
    intro other found
    cases spans.token_at.symm.trans found
    obtain ⟨criterion, member, accepted⟩ := (TerminalSet.accepts_iff _ _).mp begins
    exact ⟨criterion, .again listed slot member, accepted⟩

/-- After a first expansion the others are read as well, and then the slot is left. -/
theorem Reads.repeated (reads : grammar.Reads tokens expand) (predictive : grammar.Predictive)
    (listed : grammar.Lists head production)
    (slot : Element.required (.nonTerminal symbol) ∈ production) {parts : List (List Token)}
    (words : ∀ part ∈ parts, grammar.Generates symbol.name part)
    (spans : Spans tokens cursor parts.flatten stop)
    (continues : grammar.Continues tokens symbol.name stop)
    (refuses : grammar.Refuses tokens symbol.name stop) (trees : List Tree) :
    (Recursion.repeated (expand symbol.name) trees cursor).Reaches stop := by
  induction parts generalizing cursor trees with
  | nil =>
    cases spans.eq_of_nil
    have missed := reads.misses refuses
    rw [Recursion.repeated]
    generalize expand symbol.name stop = answer at missed ⊢
    cases missed with
    | lost =>
      dsimp only
      rw [if_pos rfl]
      exact .derived
    | overflow => exact .overflow
  | cons part parts ih =>
    obtain ⟨first, others⟩ := List.forall_mem_cons.mp words
    rw [List.flatten_cons] at spans
    obtain ⟨middle, own, rest⟩ := spans.split
    have reached := reads.reaches first own
      (continues_parts predictive listed slot others rest continues)
    obtain ⟨token, tail, rfl, _⟩ := first.begins predictive
    have moved : cursor < middle := own.lt_of_cons
    rw [Recursion.repeated]
    generalize expand symbol.name cursor = answer at reached ⊢
    cases reached with
    | derived =>
      dsimp only
      rw [if_pos moved]
      exact ih others rest _
    | overflow => exact .overflow

theorem slot_end (predictive : grammar.Predictive) {front rest : List Element}
    (listed : grammar.Lists head (front ++ .required (.nonTerminal symbol) :: rest))
    {tail : List Token} (sentence : grammar.Sentence rest tail)
    (spans : Spans tokens cursor tail stop) (continues : grammar.Continues tokens head stop) :
    grammar.Continues tokens symbol.name cursor ∧ grammar.Refuses tokens symbol.name cursor := by
  cases rest with
  | nil =>
    cases sentence
    cases spans.eq_of_nil
    have last : (front ++ [Element.required (.nonTerminal symbol)]).getLast? =
        some (.required (.nonTerminal symbol)) := by simp
    refine ⟨fun token there => ?_, fun token there => ?_⟩
    · obtain ⟨criterion, follows, accepted⟩ := continues token there
      exact ⟨criterion, .last listed last follows, accepted⟩
    · exact Bool.eq_false_iff.mpr fun begins =>
        predictive.last listed last begins (continues token there)
  | cons next rest =>
    have infixed : [Element.required (.nonTerminal symbol), next] <:+:
        front ++ .required (.nonTerminal symbol) :: next :: rest := ⟨front, rest, by simp⟩
    obtain ⟨own, rfl⟩ := predictive.required listed (show next ∈ _ by simp)
    obtain ⟨token, tail, rfl, begins⟩ := sentence.begins predictive rfl
    refine ⟨fun other there => ?_, fun other there => ?_⟩
    · cases spans.token_at.symm.trans there
      obtain ⟨criterion, member, accepted⟩ := (TerminalSet.accepts_iff _ _).mp begins
      exact ⟨criterion, .next listed infixed member, accepted⟩
    · cases spans.token_at.symm.trans there
      exact Bool.eq_false_iff.mpr fun also => by
        rw [predictive.next listed infixed also] at begins
        cases begins

/-- The elements of a production read a sentence of them. -/
theorem Reads.sequence (reads : grammar.Reads tokens expand) (predictive : grammar.Predictive)
    {front elements : List Element} (listed : grammar.Lists head (front ++ elements))
    {word : List Token} (sentence : grammar.Sentence elements word)
    (spans : Spans tokens cursor word stop) (continues : grammar.Continues tokens head stop) :
    (Recursion.sequence expand elements cursor).Reaches stop := by
  induction elements generalizing front word cursor with
  | nil =>
    cases sentence
    cases spans.eq_of_nil
    exact .derived
  | cons element rest ih =>
    have after : grammar.Lists head ((front ++ [element]) ++ rest) := by simpa using listed
    have later {middle : Spot tokens} {tail : List Token} (sentence : grammar.Sentence rest tail)
        (spans : Spans tokens middle tail stop) (trees : List Tree) :
        ((Recursion.sequence expand rest middle).follow fun more last =>
          .derived (trees ++ more) last).Reaches stop :=
      (ih after sentence spans).follow fun _ => .derived
    obtain ⟨symbol, rfl⟩ := predictive.required listed (show element ∈ _ by simp)
    cases symbol with
    | terminal terminal =>
      cases sentence with
      | @terminal _ token _ tail accepted sentence =>
        rw [← List.singleton_append] at spans
        obtain ⟨middle, own, spans⟩ := spans.split
        obtain ⟨next, place, found⟩ := Machine.leaf?_accepted cursor own.token_at accepted
        have same : next = middle := by
          have lengths := congrArg List.length own
          simp only [List.length_drop, List.length_append, List.length_cons,
            List.length_nil] at lengths
          apply Fin.ext
          omega
        have reached : (Recursion.slot expand (.required (.terminal terminal)) cursor).Reaches
            middle := by
          simp only [Recursion.slot, found, same]
          exact .derived
        exact reached.follow fun trees => later sentence spans trees
    | nonTerminal symbol =>
      -- The sentence has one word or more for the slot, and the token behind them begins no other.
      obtain ⟨first, more, tail, generates, words, others, rfl⟩ := sentence.slot
      obtain ⟨begun, own, onward⟩ := spans.split
      obtain ⟨middle, repeats, onward⟩ := onward.split
      obtain ⟨ends, refuses⟩ := slot_end predictive listed others onward continues
      have member : Element.required (.nonTerminal symbol) ∈
          front ++ .required (.nonTerminal symbol) :: rest := by simp
      have reached := reads.reaches generates own
        (continues_parts predictive listed member words repeats ends)
      obtain ⟨token, _, rfl, _⟩ := generates.begins predictive
      have moved : cursor < begun := own.lt_of_cons
      refine Answer.Reaches.follow (reached.follow fun tree => ?_) fun trees =>
        later others onward trees
      rw [if_pos moved]
      exact reads.repeated predictive listed member words repeats ends refuses _

theorem Reads.sequence_misses (reads : grammar.Reads tokens expand)
    (predictive : grammar.Predictive) (listed : grammar.Lists head production)
    (refuses : grammar.Refuses tokens head cursor) :
    (Recursion.sequence expand production cursor).Misses cursor := by
  obtain ⟨symbol, first⟩ := predictive.head listed
  have other : ∀ token, tokens[cursor.val]? = some token →
      (grammar.firstOf (.required symbol)).accepts token = false := fun token there =>
    Bool.eq_false_iff.mpr fun begins => by
      have also := accepts_of_head listed first begins
      rw [refuses token there] at also
      cases also
  obtain ⟨rest, rfl⟩ := List.head?_eq_some_iff.mp first
  have missed : (Recursion.slot expand (.required symbol) cursor).Misses cursor := by
    cases symbol with
    | terminal terminal =>
      have none : Recursion.leaf? terminal cursor = none :=
        Machine.leaf?_mismatch cursor fun token there => by simpa using other token there
      simp only [Recursion.slot, none]
      exact .lost
    | nonTerminal symbol => exact (reads.misses other).follow
  exact missed.follow

end Slots

end Grammar

end Descent
