import Descent.Evaluation

/-! The rules that can be reached from a start, in breadth-first order of first
mention. Asking for their bodies is what evaluates them.
-/

set_option autoImplicit false

namespace Descent

/-- Every nonterminal that a rule mentions has a rule of its own. -/
def Closed (rules : List Definition) : Prop :=
  ∀ rule ∈ rules, ∀ symbol ∈ rule.nonTerminals, symbol ∈ rules.map Definition.head

/-- What is still to be visited: the start and all that was mentioned so far lie
either behind or ahead. -/
structure Frontier (start : NonTerminal) (found : List Definition) (queue : List NonTerminal) :
    Prop where
  start_mem : start ∈ found.map Definition.head ∨ start ∈ queue
  mentioned_mem : ∀ rule ∈ found, ∀ symbol ∈ rule.nonTerminals,
    symbol ∈ found.map Definition.head ∨ symbol ∈ queue

/-- Rules that hold the start and all that they mention. -/
structure Territory (start : NonTerminal) where
  rules : List Definition
  start_mem : start ∈ rules.map Definition.head
  closed : Closed rules

namespace Frontier

variable {start : NonTerminal} {found : List Definition} {queue : List NonTerminal}

def unvisited (found : List Definition) (queue : List NonTerminal) : List NonTerminal :=
  queue.filter fun symbol => !(found.map Definition.head).contains symbol

theorem mem_or_mem_unvisited {symbol : NonTerminal}
    (known : symbol ∈ found.map Definition.head ∨ symbol ∈ queue) :
    symbol ∈ found.map Definition.head ∨ symbol ∈ unvisited found queue := by
  by_cases old : symbol ∈ found.map Definition.head
  · exact Or.inl old
  · refine Or.inr (List.mem_filter.mpr ⟨known.resolve_left old, ?_⟩)
    simpa using old

theorem initial (start : NonTerminal) : Frontier start [] [start] :=
  ⟨Or.inr List.mem_cons_self, by simp⟩

def territory (frontier : Frontier start found queue) (done : unvisited found queue = []) :
    Territory start where
  rules := found
  start_mem := by simpa [done] using mem_or_mem_unvisited frontier.start_mem
  closed := by
    intro rule member symbol mentioned
    simpa [done] using mem_or_mem_unvisited (frontier.mentioned_mem rule member symbol mentioned)

theorem visit (frontier : Frontier start found queue) {next : NonTerminal}
    {rest : List NonTerminal} (ahead : unvisited found queue = next :: rest)
    {definition : Definition} (owned : definition.head = next) :
    Frontier start (found ++ [definition]) (rest ++ definition.nonTerminals) := by
  have moved : ∀ symbol, (symbol ∈ found.map Definition.head ∨ symbol ∈ queue) →
      symbol ∈ (found ++ [definition]).map Definition.head ∨
        symbol ∈ rest ++ definition.nonTerminals := by
    intro symbol known
    rcases mem_or_mem_unvisited known with old | new
    · exact Or.inl (by simp_all)
    · rw [ahead, List.mem_cons] at new
      rcases new with rfl | later
      · exact Or.inl (by simp [owned])
      · exact Or.inr (List.mem_append_left _ later)
  refine ⟨moved start frontier.start_mem, ?_⟩
  intro rule member symbol mentioned
  rcases List.mem_append.mp member with old | new
  · exact moved symbol (frontier.mentioned_mem rule old symbol mentioned)
  · rw [List.mem_singleton] at new
    exact Or.inr (List.mem_append_right _ (new ▸ mentioned))

end Frontier

namespace Evaluation

/-- Visit what lies ahead until nothing does. `limit` bounds the number of visits. -/
def exploreFrom (asker : Location) {start : NonTerminal} :
    (limit : Nat) → (found : List Definition) → (queue : List NonTerminal) →
      Frontier start found queue → Evaluation (Territory start)
  | limit, found, queue, frontier =>
    match ahead : Frontier.unvisited found queue with
    | [] => return frontier.territory ahead
    | next :: rest =>
      match limit with
      | 0 => throw .circular
      | limit + 1 => do
        let definition ← definitionOf asker next
        if owned : definition.head = next then
          exploreFrom asker limit (found ++ [definition]) (rest ++ definition.nonTerminals)
            (frontier.visit ahead owned)
        else throw (.undeclared next.name)

def explore (asker : Location) (start : NonTerminal) : Evaluation (Territory start) := do
  exploreFrom asker ((← get).capacity + 1) [] [start] (Frontier.initial start)

end Evaluation

end Descent
