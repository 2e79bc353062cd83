import Mathlib
import Descent.Proofs.Exploration.Tables

/-! A grammar has exactly what its start reaches, or names clash.

The rules come in breadth-first order of first mention, and of terminals with equal criteria the first
stays. If the names of two rules clash there is no grammar, nor if the names of two terminals do that
stay. Otherwise there is one, and it has an answer to every name that comes up in it.
-/

set_option autoImplicit false

namespace Descent

/-! Entries that may be followed by a comma, an entry and a mark. -/

namespace Entries

open Evaluation

def location : Location := ⟨"entries", 1⟩

def entry : NonTerminal := ⟨0, "Entry", location⟩

def mark : NonTerminal := ⟨1, "Mark", location⟩

def group : NonTerminal := ⟨2, "__opt_Entry_0", location⟩

def entryBody : Expression :=
  .sequence [.plain (.text "x"), .group [.plain (.text ","), .reference "entry", .reference "mark"]]

def markBody : Expression := .plain (.text ";")

def text (lexeme : String) : Element := .required (.terminal (.of (.lexeme lexeme) none location))

def entryRule : Definition :=
  ⟨entry, [[text "x", .optional (some (.nonTerminal group))]], nofun⟩

def groupRule : Definition :=
  ⟨group, [[text ",", .required (.nonTerminal entry), .required (.nonTerminal mark)]], nofun⟩

def markRule : Definition := ⟨mark, [[text ";"]], nofun⟩

def groupBody : Rule :=
  .sequence (.sequence (.symbol (.terminal (.of (.lexeme ",") none location)))
    (.symbol (.nonTerminal entry))) (.symbol (.nonTerminal mark))

def first : Declarations :=
  { Declarations.empty with
    declared := [⟨entry, .written entryBody location⟩]
    handles := [("entry", entry)] }

def written : Declarations :=
  { first with
    declared := [⟨entry, .written entryBody location⟩, ⟨mark, .written markBody location⟩]
    handles := [("mark", mark), ("entry", entry)] }

def asked : Nat → Declarations
  | 0 => written
  | 1 => { written with
      declared := [⟨entry, .known entryRule⟩, ⟨mark, .written markBody location⟩,
        ⟨group, .built groupBody⟩]
      stamp := 2 }
  | 2 => { written with
      declared := [⟨entry, .known entryRule⟩, ⟨mark, .written markBody location⟩,
        ⟨group, .known groupRule⟩]
      stamp := 2 }
  | _ => { written with
      declared := [⟨entry, .known entryRule⟩, ⟨mark, .known markRule⟩, ⟨group, .known groupRule⟩]
      stamp := 2 }

theorem made : written.Made := by
  have one : (Evaluation.declare "entry" (.text "Entry") location entryBody).run .empty =
      .ok ((), first) := rfl
  have two : (Evaluation.declare "mark" (.text "Mark") location markBody).run first =
      .ok ((), written) := rfl
  exact .declare (.declare .empty one) two

theorem ask_entry : (definitionOf location entry).run written = .ok (entryRule, asked 1) := by cbv

theorem ask_group : (definitionOf location group).run (asked 1) = .ok (groupRule, asked 2) := by cbv

theorem ask_mark : (definitionOf location mark).run (asked 2) = .ok (markRule, asked 3) := by cbv

theorem evaluates : Evaluates location entry written :=
  Straight.evaluates (.next rfl ask_entry (.next rfl ask_group (.next rfl ask_mark (.done rfl))))

end Entries

/-! A terminal that comes up under one name, and then under a name that another terminal has. -/

namespace Aliases

open Evaluation

def location : Location := ⟨"aliases", 1⟩

def start : NonTerminal := ⟨0, "Start", location⟩

def body : Expression :=
  .sequence [.terminal (some "a") none (some "y"), .terminal (some "a") none (some "x"),
    .terminal (some "b") none (some "x")]

def terminal (lexeme name : String) : Terminal := ⟨.lexeme lexeme, name, location⟩

def rule : Definition :=
  ⟨start, [[.required (.terminal (terminal "a" "y")), .required (.terminal (terminal "a" "x")),
    .required (.terminal (terminal "b" "x"))]], nofun⟩

def written : Declarations :=
  { Declarations.empty with
    declared := [⟨start, .written body location⟩]
    handles := [("start", start)] }

def asked : Declarations := { written with declared := [⟨start, .known rule⟩], stamp := 1 }

theorem made : written.Made := by
  have one : (Evaluation.declare "start" (.text "Start") location body).run .empty =
      .ok ((), written) := rfl
  exact .declare .empty one

theorem ask_start : (definitionOf location start).run written = .ok (rule, asked) := by cbv

theorem evaluates : Evaluates location start written :=
  Straight.evaluates (.next rfl ask_start (.done rfl))

end Aliases

namespace Grammar

variable {asker : Location} {start : NonTerminal} {before : Declarations}

theorem toOption_eq_some {ε α : Type} {outcome : Except ε α} {result : α}
    (succeeded : outcome.toOption = some result) : outcome = .ok result := by
  cases outcome with
  | error => cases succeeded
  | ok =>
    cases succeeded
    rfl

/-- Everything that is reached from a start is gathered. If two names clash there is no grammar, and
otherwise the tables of the grammar are those of what was gathered. -/
theorem build_gathers (made : before.Made) (declared : before.Declares start)
    (evaluates : Evaluation.Evaluates asker start before) (stamp : Option Nat)
    (name : Option String) :
    ∃ rules after, Evaluation.Gathered start rules after ∧
      ((∃ error, (build asker (.rule (.symbol (.nonTerminal start)) stamp) name).run before =
          .error error) ↔ RulesClash start after ∨ TerminalsClash rules) ∧
      (∀ error, (build asker (.rule (.symbol (.nonTerminal start)) stamp) name).run before =
          .error error →
        RulesClash start after ∧ (∃ clash first second, error = .duplicateRule clash first second) ∨
          ¬RulesClash start after ∧
            ∃ clash first second, error = .duplicateTerminal clash first second) ∧
      ∀ grammar last, (build asker (.rule (.symbol (.nonTerminal start)) stamp) name).run before =
          .ok (grammar, last) → last = after ∧ grammar.Tabulates start rules := by
  obtain ⟨territory, after, explored, gathered⟩ :=
    Evaluation.explore_gathers made.sound declared evaluates
  have run : (build asker (.rule (.symbol (.nonTerminal start)) stamp) name).run before =
      (ofTerritory (name.getD "unknown") territory).map fun grammar => (grammar, after) := by
    unfold build
    dsimp only
    rw [StateT.run_bind, explored]
    show (liftM (ofTerritory (name.getD "unknown") territory) : Evaluation Grammar).run after = _
    cases ofTerritory (name.getD "unknown") territory <;> rfl
  have rules := rulesClash_iff gathered
  have terminals := @terminalsClash_iff territory.rules
  refine ⟨territory.rules, after, gathered, ?_⟩
  -- What was gathered does not depend on whether the tables can be made of it.
  rw [run]
  cases built : ofTerritory (name.getD "unknown") territory with
  | error error =>
    rcases ofTerritory_error built with ⟨twice, named⟩ | ⟨once, twice, named⟩
    · have clash := rules.mp twice
      refine ⟨⟨fun _ => .inl clash, fun _ => ⟨error, rfl⟩⟩, fun other same => ?_, nofun⟩
      cases same
      exact .inl ⟨clash, named⟩
    · have clash := terminals.mp twice
      refine ⟨⟨fun _ => .inr clash, fun _ => ⟨error, rfl⟩⟩, fun other same => ?_, nofun⟩
      cases same
      exact .inr ⟨fun other => rules.mpr other once, named⟩
  | ok grammar =>
    obtain ⟨head, same, once, once'⟩ := ofTerritory_ok built
    refine ⟨⟨nofun, ?_⟩, nofun, fun other last made => ?_⟩
    · rintro (clash | clash)
      · exact absurd once (rules.mpr clash)
      · exact absurd once' (terminals.mpr clash)
    · cases made
      exact ⟨rfl, tabulates gathered same head⟩

/-- The tables of the entries hold the entry, the group and the mark. -/
theorem build_gathers_entries :
    Entries.written.Made ∧ Entries.written.Declares Entries.entry ∧
      Evaluation.Evaluates Entries.location Entries.entry Entries.written ∧
      ∃ rules after grammar, Evaluation.Gathered Entries.entry rules after ∧
        rules.map Definition.head = [Entries.entry, Entries.group, Entries.mark] ∧
        (build Entries.location (.rule (.symbol (.nonTerminal Entries.entry)) none) none).run
          Entries.written = .ok (grammar, after) ∧
        grammar.Tabulates Entries.entry rules := by
  have declared : Entries.written.Declares Entries.entry := ⟨_, rfl⟩
  obtain ⟨rules, after, gathered, _, _, tables⟩ :=
    build_gathers Entries.made declared Entries.evaluates none none
  have listed : ((build Entries.location (.rule (.symbol (.nonTerminal Entries.entry)) none)
      none).run Entries.written).toOption.map (fun built => built.1.nonTerminals) =
        some [Entries.entry, Entries.group, Entries.mark] := by cbv
  obtain ⟨⟨grammar, last⟩, succeeded, heads⟩ := Option.map_eq_some_iff.mp listed
  have built := toOption_eq_some succeeded
  obtain ⟨rfl, tabulates⟩ := tables grammar last built
  refine ⟨Entries.made, declared, Entries.evaluates, rules, last, grammar, gathered, ?_, built,
    tabulates⟩
  rw [← tabulates.rules_eq]
  exact heads

/-- Of equal terminals only the first has a say: there is a grammar, although two terminals that differ
come up under one name. -/
theorem build_first_name :
    Aliases.written.Made ∧ Aliases.written.Declares Aliases.start ∧
      Evaluation.Evaluates Aliases.location Aliases.start Aliases.written ∧
      (Evaluation.definitionOf Aliases.location Aliases.start).run Aliases.written =
        .ok (Aliases.rule, Aliases.asked) ∧
      (∃ first ∈ Aliases.rule.terminals, ∃ second ∈ Aliases.rule.terminals,
        first.criterion ≠ second.criterion ∧ first.name = second.name) ∧
      ∃ grammar last, (build Aliases.location (.rule (.symbol (.nonTerminal Aliases.start)) none)
        none).run Aliases.written = .ok (grammar, last) := by
  refine ⟨Aliases.made, ⟨_, rfl⟩, Aliases.evaluates, Aliases.ask_start,
    ⟨Aliases.terminal "a" "x", by decide, Aliases.terminal "b" "x", by decide, by decide, rfl⟩, ?_⟩
  have listed : ((build Aliases.location (.rule (.symbol (.nonTerminal Aliases.start)) none)
      none).run Aliases.written).toOption.map (fun built => built.1.nonTerminals) =
        some [Aliases.start] := by cbv
  obtain ⟨⟨grammar, last⟩, succeeded, _⟩ := Option.map_eq_some_iff.mp listed
  exact ⟨grammar, last, toOption_eq_some succeeded⟩

end Grammar

end Descent
