import Descent.Proofs.Language
import Descent.Proofs.Opening.Productions

/-! Grammars in which the next token decides.

No production is empty and nothing in it is optional. One token tells the productions of a
nonterminal apart, and it tells another expansion of a slot from what comes after the slot.
-/

set_option autoImplicit false

namespace Descent

namespace Grammar

def firstOf (grammar : Grammar) (element : Element) : TerminalSet :=
  (grammar.openings.ofElement element).first

-- What follows a slot is what its own repetition begins with, or the next element, or what
-- follows the head of the production if there is no next element.
/-- The terminals that can come after an expansion of a nonterminal. -/
inductive Follows (grammar : Grammar) : String → Criterion → Prop where
  | again {head : String} {production : Production} {symbol : NonTerminal} {criterion : Criterion}
      (listed : grammar.Lists head production)
      (slot : Element.required (.nonTerminal symbol) ∈ production)
      (first : criterion ∈ (grammar.firstOf (.required (.nonTerminal symbol))).criteria) :
      Follows grammar symbol.name criterion
  | next {head : String} {production : Production} {symbol : NonTerminal} {next : Element}
      {criterion : Criterion} (listed : grammar.Lists head production)
      (slot : [.required (.nonTerminal symbol), next] <:+: production)
      (first : criterion ∈ (grammar.firstOf next).criteria) : Follows grammar symbol.name criterion
  | last {head : String} {production : Production} {symbol : NonTerminal} {criterion : Criterion}
      (listed : grammar.Lists head production)
      (slot : production.getLast? = some (.required (.nonTerminal symbol)))
      (after : Follows grammar head criterion) : Follows grammar symbol.name criterion

/-- The token can come after an expansion of the nonterminal. -/
def MayFollow (grammar : Grammar) (symbol : String) (token : Token) : Prop :=
  ∃ criterion, grammar.Follows symbol criterion ∧ criterion.accepts token = true

/-- One token is enough to go on. -/
structure Predictive (grammar : Grammar) : Prop where
  filled : ∀ {head production}, grammar.Lists head production → production ≠ []
  required : ∀ {head production element}, grammar.Lists head production → element ∈ production →
    ∃ symbol, element = .required symbol
  choices : ∀ {head production other element first token}, grammar.Lists head production →
    grammar.Lists head other → production.head? = some element → other.head? = some first →
      (grammar.firstOf element).accepts token = true →
        (grammar.firstOf first).accepts token = true → production = other
  next : ∀ {head production symbol next token}, grammar.Lists head production →
    [.required (.nonTerminal symbol), next] <:+: production →
      (grammar.firstOf (.required (.nonTerminal symbol))).accepts token = true →
        (grammar.firstOf next).accepts token = false
  last : ∀ {head production symbol token}, grammar.Lists head production →
    production.getLast? = some (.required (.nonTerminal symbol)) →
      (grammar.firstOf (.required (.nonTerminal symbol))).accepts token = true →
        ¬grammar.MayFollow head token

variable {grammar : Grammar}

@[simp] theorem firstOf_terminal (terminal : Terminal) (token : Token) :
    (grammar.firstOf (.required (.terminal terminal))).accepts token = terminal.accepts token :=
  TerminalSet.accepts_single terminal token

theorem accepts_of_head {head : String} {production : Production} {element : Element}
    {token : Token} (listed : grammar.Lists head production)
    (first : production.head? = some element)
    (begins : (grammar.firstOf element).accepts token = true) :
    (grammar.opening head).first.accepts token = true := by
  obtain ⟨rest, rfl⟩ := List.head?_eq_some_iff.mp first
  have whole : grammar.Lists head ([] ++ element :: rest) := listed
  exact accepts_of_vanishes whole nofun begins

theorem Predictive.head (predictive : grammar.Predictive) {head : String}
    {production : Production} (listed : grammar.Lists head production) :
    ∃ symbol, production.head? = some (.required symbol) := by
  obtain ⟨element, found⟩ := Option.isSome_iff_exists.mp
    (List.isSome_head?.mpr (predictive.filled listed))
  obtain ⟨symbol, rfl⟩ := predictive.required listed (List.mem_of_mem_head? found)
  exact ⟨symbol, found⟩

section Sentences

variable {elements rest : List Element} {word : List Token}

theorem Sentence.begins (predictive : grammar.Predictive) {symbol : Symbol}
    (sentence : grammar.Sentence elements word)
    (first : elements.head? = some (.required symbol)) :
    ∃ token tail, word = token :: tail ∧
      (grammar.firstOf (.required symbol)).accepts token = true := by
  induction sentence generalizing symbol with
  | nil | absent | presentTerminal | presentNonTerminal => cases first
  | @terminal terminal token _ tail accepted =>
    cases first
    exact ⟨token, tail, rfl, (firstOf_terminal terminal token).trans accepted⟩
  | @once _ _ _ _ word listed _ _ ih | @again _ _ _ _ word listed _ _ ih =>
    cases first
    obtain ⟨own, found⟩ := predictive.head listed
    obtain ⟨token, tail, rfl, begins⟩ := ih found
    exact ⟨token, tail ++ word, rfl, accepts_of_head listed found begins⟩

theorem Generates.begins (predictive : grammar.Predictive) {symbol : String}
    (generates : grammar.Generates symbol word) :
    ∃ token tail, word = token :: tail ∧ (grammar.opening symbol).first.accepts token = true := by
  obtain ⟨production, listed, sentence⟩ := generates
  obtain ⟨own, found⟩ := predictive.head listed
  obtain ⟨token, tail, same, begins⟩ := sentence.begins predictive found
  exact ⟨token, tail, same, accepts_of_head listed found begins⟩

theorem Sentence.slot {symbol : NonTerminal}
    (sentence : grammar.Sentence (.required (.nonTerminal symbol) :: rest) word) :
    ∃ (first : List Token) (more : List (List Token)) (tail : List Token),
      grammar.Generates symbol.name first ∧
      (∀ part ∈ more, grammar.Generates symbol.name part) ∧ grammar.Sentence rest tail ∧
        word = first ++ (more.flatten ++ tail) := by
  generalize same : Element.required (.nonTerminal symbol) :: rest = elements at sentence
  induction sentence with
  | nil | terminal | absent | presentTerminal | presentNonTerminal => cases same
  | @once _ _ _ inner tail listed within after =>
    cases same
    exact ⟨inner, [], tail, ⟨_, listed, within⟩, nofun, after, rfl⟩
  | @again _ _ _ inner _ listed within _ _ ih =>
    cases same
    obtain ⟨first, more, tail, generates, others, after, rfl⟩ := ih rfl
    refine ⟨inner, first :: more, tail, ⟨_, listed, within⟩, ?_, after, ?_⟩
    · exact List.forall_mem_cons.mpr ⟨generates, others⟩
    · simp

end Sentences

end Grammar

/-! Nests are such a grammar: `T` is a "b" and then a `U`, and `U` is a "d", or a `T` between
an "a" and a "c". -/

namespace Nests

def location : Location := ⟨"nests", 1⟩

def terminal (text : String) : Terminal := .of (.lexeme text) none location

def trunk : NonTerminal := ⟨0, "T", location⟩

def branch : NonTerminal := ⟨1, "U", location⟩

def trunkBody : Production :=
  [.required (.terminal (terminal "b")), .required (.nonTerminal branch)]

def leafBody : Production := [.required (.terminal (terminal "d"))]

def branchBody : Production :=
  [.required (.terminal (terminal "a")), .required (.nonTerminal trunk),
    .required (.terminal (terminal "c"))]

def rules : List Definition :=
  [⟨trunk, [trunkBody], by decide⟩, ⟨branch, [leafBody, branchBody], by decide⟩]

def grammar : Grammar where
  name := "nests"
  start := trunk
  rules := rules
  openings := OpeningTable.ofRules rules
  start_mem := by decide
  closed := by
    intro rule member called mentioned
    simp only [rules, List.mem_cons, List.not_mem_nil, or_false] at member
    rcases member with rfl | rfl <;> revert called <;> decide
  names_distinct := by decide
  openings_eq := rfl

theorem lists_iff {head : String} {production : Production} :
    grammar.Lists head production ↔
      head = "T" ∧ production = trunkBody ∨
        head = "U" ∧ (production = leafBody ∨ production = branchBody) := by
  unfold Grammar.Lists grammar rules
  simp [trunk, branch, eq_comm]

def first (symbol : String) : List String := if symbol = "T" then ["b"] else ["d", "a"]

def after (symbol : String) : List String :=
  if symbol = "T" then ["b", "c"] else ["d", "a", "b", "c"]

theorem criteria_eq {symbol : NonTerminal} (known : symbol = trunk ∨ symbol = branch) :
    (grammar.firstOf (.required (.nonTerminal symbol))).criteria =
      (first symbol.name).map .lexeme := by
  rcases known with rfl | rfl <;> decide

theorem accepts_iff {symbol : NonTerminal} (known : symbol = trunk ∨ symbol = branch)
    (token : Token) : (grammar.firstOf (.required (.nonTerminal symbol))).accepts token = true ↔
      token.lexeme ∈ first symbol.name := by
  rw [TerminalSet.accepts_iff, criteria_eq known]
  simp [Criterion.accepts]

@[simp] theorem terminal_accepts (text : String) (token : Token) :
    (terminal text).accepts token = (token.lexeme == text) := rfl

section Slots

variable {head : String} {production : Production} {symbol : NonTerminal}

theorem slot_mem (listed : grammar.Lists head production)
    (slot : Element.required (.nonTerminal symbol) ∈ production) :
    symbol = trunk ∨ symbol = branch := by
  rcases lists_iff.mp listed with ⟨-, rfl⟩ | ⟨-, rfl | rfl⟩ <;>
    simp_all [trunkBody, leafBody, branchBody]

theorem slot_next {next : Element} (listed : grammar.Lists head production)
    (slot : [Element.required (.nonTerminal symbol), next] <:+: production) :
    symbol = trunk ∧ next = .required (.terminal (terminal "c")) := by
  rcases lists_iff.mp listed with ⟨-, rfl⟩ | ⟨-, rfl | rfl⟩ <;>
    simp_all [trunkBody, leafBody, branchBody, List.infix_cons_iff]

theorem slot_last (listed : grammar.Lists head production)
    (slot : production.getLast? = some (.required (.nonTerminal symbol))) :
    head = "T" ∧ symbol = branch := by
  rcases lists_iff.mp listed with ⟨rfl, rfl⟩ | ⟨rfl, rfl | rfl⟩ <;>
    simp_all [trunkBody, leafBody, branchBody]

end Slots

theorem follows {symbol : String} {criterion : Criterion}
    (follows : grammar.Follows symbol criterion) :
    ∃ text ∈ after symbol, criterion = .lexeme text := by
  induction follows with
  | again listed slot begins =>
    have known := slot_mem listed slot
    rw [criteria_eq known] at begins
    obtain ⟨text, member, rfl⟩ := List.mem_map.mp begins
    refine ⟨text, ?_, rfl⟩
    rcases known with rfl | rfl
    · exact (show ∀ text ∈ first "T", text ∈ after "T" by decide) text member
    · exact (show ∀ text ∈ first "U", text ∈ after "U" by decide) text member
  | next listed slot begins =>
    obtain ⟨rfl, rfl⟩ := slot_next listed slot
    cases List.mem_singleton.mp begins
    exact ⟨"c", by decide, rfl⟩
  | last listed slot _ ih =>
    obtain ⟨rfl, rfl⟩ := slot_last listed slot
    obtain ⟨text, member, rfl⟩ := ih
    exact ⟨text, (show ∀ text ∈ after "T", text ∈ after "U" by decide) text member, rfl⟩

theorem predictive : grammar.Predictive where
  filled := by
    intro head production listed
    rcases lists_iff.mp listed with ⟨-, rfl⟩ | ⟨-, rfl | rfl⟩ <;> nofun
  required := by
    intro head production element listed member
    cases element with
    | required symbol => exact ⟨symbol, rfl⟩
    | optional symbol =>
      rcases lists_iff.mp listed with ⟨-, rfl⟩ | ⟨-, rfl | rfl⟩ <;>
        simp [trunkBody, leafBody, branchBody] at member
  choices := by
    intro head production other element first token listed others own its begins also
    -- Only the bodies of a branch are two, and one begins with a "d", the other with an "a".
    rcases lists_iff.mp listed with ⟨rfl, rfl⟩ | ⟨rfl, ours⟩
    · rcases lists_iff.mp others with ⟨-, rfl⟩ | ⟨apart, -⟩
      · rfl
      · exact absurd apart (by decide)
    · rcases lists_iff.mp others with ⟨apart, -⟩ | ⟨-, theirs⟩
      · exact absurd apart (by decide)
      · rcases ours with rfl | rfl <;> rcases theirs with rfl | rfl <;> cases own <;> cases its
        · rfl
        · simp_all
        · simp_all
        · rfl
  next := by
    intro head production symbol next token listed slot begins
    obtain ⟨rfl, rfl⟩ := slot_next listed slot
    rw [accepts_iff (.inl rfl)] at begins
    have text : token.lexeme = "b" := List.mem_singleton.mp begins
    rw [Grammar.firstOf_terminal, terminal_accepts, text]
    rfl
  last := by
    intro head production symbol token listed slot begins ⟨criterion, after, accepted⟩
    obtain ⟨rfl, rfl⟩ := slot_last listed slot
    obtain ⟨text, member, rfl⟩ := follows after
    rw [accepts_iff (.inr rfl)] at begins
    have same : token.lexeme = text := by simpa [Criterion.accepts] using accepted
    rw [same] at begins
    exact (show ∀ text ∈ first "U", text ∉ Nests.after "T" by decide) text begins member

end Nests
end Descent
