import Descent.Grammar.Exploration
import Descent.Grammar.Opening

/-! Grammars: the rules that a start rule reaches, with their openings.

Names are unique in a grammar, of nonterminals and of terminals, so the machine
that runs a grammar knows its nonterminals by name.
-/

set_option autoImplicit false

namespace Descent

structure UnknownSymbol where
  symbol : String
  grammar : String
  deriving DecidableEq, Repr

def UnknownSymbol.message (unknown : UnknownSymbol) : String :=
  "Unknown non-terminal " ++ unknown.symbol ++ " in grammar " ++ unknown.grammar

structure Grammar where
  name : String
  start : NonTerminal
  rules : List Definition
  openings : OpeningTable
  start_mem : start ∈ rules.map Definition.head
  closed : Closed rules
  names_distinct : (rules.map fun rule => rule.head.name).Nodup
  openings_eq : openings = OpeningTable.ofRules rules

def firstClash? (entries : List (String × Location)) : Option (String × Location × Location) :=
  go [] entries
where
  go (seen : List (String × Location)) :
      List (String × Location) → Option (String × Location × Location)
    | [] => none
    | (name, location) :: rest =>
      match seen.lookup name with
      | some earlier => some (name, earlier, location)
      | none => go (seen ++ [(name, location)]) rest

theorem firstClash?.go_none {seen entries : List (String × Location)}
    (clean : firstClash?.go seen entries = none) :
    (entries.map Prod.fst).Nodup ∧ ∀ entry ∈ entries, seen.lookup entry.1 = none := by
  induction entries generalizing seen with
  | nil => simp
  | cons entry rest ih =>
    obtain ⟨name, location⟩ := entry
    unfold firstClash?.go at clean
    cases found : seen.lookup name with
    | some earlier => simp [found] at clean
    | none =>
      simp only [found] at clean
      obtain ⟨distinct, absent⟩ := ih clean
      have apart : ∀ other ∈ rest, other.1 ≠ name ∧ seen.lookup other.1 = none := by
        intro other member
        have := absent other member
        rw [List.lookup_append, Option.or_eq_none_iff] at this
        refine ⟨?_, this.1⟩
        intro same
        have last := this.2
        rw [same, List.lookup_cons_self] at last
        exact nomatch last
      constructor
      · rw [List.map_cons, List.nodup_cons]
        refine ⟨?_, distinct⟩
        intro member
        obtain ⟨other, inRest, same⟩ := List.mem_map.mp member
        exact (apart other inRest).1 same
      · intro other member
        rcases List.mem_cons.mp member with rfl | later
        · exact found
        · exact (apart other later).2

theorem nodup_of_firstClash?_eq_none {entries : List (String × Location)}
    (clean : firstClash? entries = none) : (entries.map Prod.fst).Nodup :=
  (firstClash?.go_none clean).1

namespace Grammar

def nonTerminals (grammar : Grammar) : List NonTerminal := grammar.rules.map Definition.head

/-- The terminals of some rules, those with equal criteria once, in order of first mention. -/
def terminalsOf (rules : List Definition) : TerminalSet :=
  TerminalSet.ofList (rules.flatMap Definition.terminals)

def terminals (grammar : Grammar) : List Terminal := (terminalsOf grammar.rules).toList

def productions? (grammar : Grammar) (symbol : String) : Option (List Production) :=
  (grammar.rules.find? fun rule => rule.head.name == symbol).map Definition.productions

def unknown (grammar : Grammar) (symbol : String) : UnknownSymbol := ⟨symbol, grammar.name⟩

def productionsOf (grammar : Grammar) (symbol : String) :
    Except UnknownSymbol (List Production) :=
  match grammar.productions? symbol with
  | some productions => .ok productions
  | none => .error (grammar.unknown symbol)

/-- The opening of a nonterminal; of a name that the grammar does not have, none. -/
def opening (grammar : Grammar) (symbol : String) : Opening := grammar.openings.opening symbol

def openingOf (grammar : Grammar) (symbol : String) : Except UnknownSymbol Opening := do
  discard (grammar.productionsOf symbol)
  return grammar.opening symbol

def first (grammar : Grammar) (symbol : String) : Except UnknownSymbol TerminalSet :=
  (grammar.openingOf symbol).map Opening.first

def nullable (grammar : Grammar) (symbol : String) : Except UnknownSymbol Bool :=
  (grammar.openingOf symbol).map Opening.nullable

/-- Whether some derivation of the nonterminal begins with the token. -/
def couldStartWith (grammar : Grammar) (symbol : String) (token : Token) :
    Except UnknownSymbol Bool :=
  (grammar.openingOf symbol).map fun opening => opening.first.accepts token

def display (grammar : Grammar) : String :=
  "\n".intercalate (grammar.rules.flatMap fun rule =>
    rule.productions.map fun production => rule.head.name ++ " -> " ++ production.display)

/-- A grammar from a closed set of rules in which names are unique. -/
def ofTerritory {start : NonTerminal} (name : String) (territory : Territory start) :
    Except DefinitionError Grammar :=
  match clean : firstClash? (territory.rules.map fun rule =>
      (rule.head.name, rule.head.location)) with
  | some (clash, first, second) => .error (.duplicateRule clash first second)
  | none =>
    match firstClash? ((terminalsOf territory.rules).toList.map fun terminal =>
        (terminal.name, terminal.location)) with
    | some (clash, first, second) => .error (.duplicateTerminal clash first second)
    | none => .ok {
        name := name
        start := start
        rules := territory.rules
        openings := OpeningTable.ofRules territory.rules
        start_mem := territory.start_mem
        closed := territory.closed
        names_distinct := by
          simpa [List.map_map, Function.comp_def] using nodup_of_firstClash?_eq_none clean
        openings_eq := rfl }

/-- The grammar of everything that the start value reaches. A body that is a
plain text gets the given location. -/
def build (location : Location) (start : Value) (name : Option String) : Evaluation Grammar :=
  match start with
  | .rule (.symbol (.nonTerminal symbol)) _ => do
    ofTerritory (name.getD "unknown") (← Evaluation.explore location symbol)
  | _ => throw (.startNotNonTerminal start.debug)

end Grammar

end Descent
