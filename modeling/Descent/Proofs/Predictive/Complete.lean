import Mathlib
import Descent.Proofs.Leaves
import Descent.Proofs.Predictive.Reading
import Descent.Proofs.Recursion.Report

/-! Where the next token decides, a run loses no word of the language.
-/

set_option autoImplicit false

namespace Descent

namespace Machine

variable {machine : Machine} {tokens : List Token}

theorem predicts_eq {production : Production} {symbol : Symbol} (token : Token)
    (first : production.head? = some (.required symbol)) :
    machine.predicts production token =
      (machine.grammar.firstOf (.required symbol)).accepts token := by
  unfold predicts
  rw [first]
  cases symbol with
  | terminal terminal => exact (Grammar.firstOf_terminal terminal token).symm
  | nonTerminal symbol => rfl

theorem foremost_predicted (predictive : machine.grammar.Predictive) {symbol : String}
    {production : Production} {token : Token} (listed : machine.grammar.Lists symbol production)
    (predicted : machine.predicts production token = true) :
    ∃ others, (machine.table symbol).drop (machine.foremost symbol (some token)) =
      production :: others := by
  unfold foremost
  dsimp only
  cases found : (machine.table symbol).findIdx? fun production =>
      machine.predicts production token with
  | none =>
    have absent := List.findIdx?_eq_none_iff.mp found production (mem_table.mpr listed)
    rw [predicted] at absent
    cases absent
  | some index =>
    obtain ⟨inside, also, _⟩ := List.findIdx?_eq_some_iff_getElem.mp found
    have other := mem_table.mp (List.getElem_mem inside)
    obtain ⟨own, first⟩ := predictive.head listed
    obtain ⟨its, head⟩ := predictive.head other
    rw [predicts_eq token first] at predicted
    rw [predicts_eq token head] at also
    have same := predictive.choices other listed head first also predicted
    exact ⟨_, by rw [Option.getD_some, List.drop_eq_getElem_cons inside, same]⟩

-- The word of a nonterminal is a sentence of one of its productions. Its first token
-- predicts that production and no other, so the choice does not get it wrong. Where there
-- is no word, no production gets past its first element.
/-- At every depth the recursion reads words, as far as there is room. -/
theorem descend_reads (predictive : machine.grammar.Predictive) (below : List String) :
    machine.grammar.Reads tokens (machine.descend tokens below) := by
  generalize left : machine.maxDepth - below.length = depth
  induction depth using Nat.strong_induction_on generalizing below with
  | _ depth ih =>
    have inner (symbol : String) (room : ¬machine.maxDepth ≤ below.length) :
        machine.grammar.Reads tokens (machine.descend tokens (below ++ [symbol])) := by
      refine ih _ ?_ _ rfl
      simp only [List.length_append, List.length_singleton]
      omega
    constructor
    · intro symbol word cursor stop generates spans continues
      obtain ⟨production, listed, sentence⟩ := generates
      obtain ⟨own, first⟩ := predictive.head listed
      obtain ⟨token, tail, rfl, begins⟩ := sentence.begins predictive first
      rw [← predicts_eq token first] at begins
      obtain ⟨others, foremost⟩ := foremost_predicted predictive listed begins
      rw [descend]
      split
      · exact .overflow
      · rename_i room
        rw [spans.token_at, foremost]
        have whole : machine.grammar.Lists symbol ([] ++ production) := listed
        have reached := (inner symbol room).sequence predictive whole sentence spans continues
        exact reached.otherwise.follow fun children => .derived
    · intro symbol cursor refuses
      rw [descend]
      split
      · exact .overflow
      · rename_i room
        refine Answer.Misses.follow (Recursion.choice_misses fun production member => ?_)
        exact (inner symbol room).sequence_misses predictive
          (mem_table.mp (List.mem_of_mem_drop member)) refuses

section Language

variable {goal : String} {state : State}

theorem Reached.generates (known : machine.Knows goal) (reached : machine.Reached tokens goal state)
    (accepted : (machine.run state).result = .ok true) :
    machine.grammar.Generates goal tokens := by
  obtain ⟨tree, found, tiled, start, stop⟩ := reached.accepted accepted
  obtain ⟨branch, derivation⟩ := (reached.run.growing known).result tree found
  have word := derivation.generates tiled branch
  rw [start, stop] at word
  simpa [List.extract] using word

theorem descend_goal (predictive : machine.grammar.Predictive)
    (generates : machine.grammar.Generates goal tokens) :
    (machine.descend tokens [] goal 0).Reaches (Fin.last tokens.length) := by
  have reads : machine.grammar.Reads tokens (machine.descend tokens []) :=
    descend_reads predictive []
  refine reads.reaches generates ?_ fun token there => ?_
  · unfold Spans
    simp
  · simp at there

/-- Unless the derivation is too deep, a run says whether the tokens are a word of the language. -/
theorem derive_generates_iff (predictive : machine.grammar.Predictive)
    (known : machine.Knows goal) (tokens : List Token) :
    (∃ exceeded, (machine.derive goal tokens).result = .error (.depthExceeded exceeded)) ∨
      ∃ accepted, (machine.derive goal tokens).result = .ok accepted ∧
        (accepted = true ↔ machine.grammar.Generates goal tokens) := by
  have standing : machine.Standing tokens goal _ := standing_goal known
  have reached : machine.Reached tokens goal _ := .goal
  rcases Nat.eq_zero_or_pos machine.maxDepth with full | room
  · exact .inl (derive_full full)
  · rw [(pushGoal_room room).2] at standing reached
    rw [derive_room room]
    have reported : report (machine.run (entered (.initial tokens) goal .goal [])) =
        (machine.descend tokens [] goal 0).report := run_report rfl standing rfl rfl rfl
    have result := congrArg Prod.fst reported
    have complete (generates : machine.grammar.Generates goal tokens) :=
      descend_goal predictive generates
    generalize machine.descend tokens [] goal 0 = answer at result complete
    cases answer with
    | derived tree stop =>
      refine .inr ⟨_, result, fun all => ?_, fun word => ?_⟩
      · exact reached.generates known (result.trans (congrArg Except.ok all))
      · cases complete word
        exact decide_eq_true rfl
    | lost spot =>
      refine .inr ⟨false, result, nofun, fun word => ?_⟩
      cases complete word
    | overflow exceeded => exact .inl ⟨exceeded, result⟩

/-- A trunk with two branches, one of which is a nest, is a word, and an empty nest is none. -/
theorem derive_generates_nests :
    let machine : Machine := ⟨Nests.grammar, 5⟩
    let word := Brackets.tokens ["b", "d", "a", "b", "d", "d", "c"]
    let other := Brackets.tokens ["b", "a", "c"]
    (machine.derive "T" word).result = .ok true ∧ Nests.grammar.Generates "T" word ∧
      (machine.derive "T" other).result = .ok false ∧ ¬Nests.grammar.Generates "T" other := by
  intro machine word other
  have known : machine.Knows "T" := ⟨_, List.mem_cons_self, rfl⟩
  have accepts : (machine.derive "T" word).result = .ok true := by cbv
  have rejects : (machine.derive "T" other).result = .ok false := by cbv
  refine ⟨accepts, ?_, rejects, ?_⟩
  · obtain ⟨_, deep⟩ | ⟨_, same, language⟩ := derive_generates_iff Nests.predictive known word
    · cases accepts.symm.trans deep
    · cases accepts.symm.trans same
      exact language.mp rfl
  · obtain ⟨_, deep⟩ | ⟨_, same, language⟩ := derive_generates_iff Nests.predictive known other
    · cases rejects.symm.trans deep
    · cases rejects.symm.trans same
      exact fun generates => Bool.false_ne_true (language.mpr generates)

end Language

end Machine

end Descent
