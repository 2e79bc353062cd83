import Mathlib.Data.List.Forall2
import Descent.Proofs.Tiling

/-! The language of a grammar whose nonterminal slots repeat.

A required nonterminal stands for one expansion of it or more, one after the other. A
derivation tree shows this by the children of a branch, which fall into one group for
each element of a production. The tokens that such a tree covers are a word of the
language.
-/

set_option autoImplicit false

namespace Descent

namespace Grammar

-- Only a required nonterminal repeats. An optional one is there once or not at all, and
-- an optional slot without a symbol is never there.
/-- Words that elements stand for, the words of a nonterminal being those of its productions. -/
inductive Sentence (grammar : Grammar) : List Element → List Token → Prop where
  | nil : Sentence grammar [] []
  | terminal {terminal : Terminal} {token : Token} {rest : List Element} {word : List Token}
      (accepted : terminal.accepts token = true) (after : Sentence grammar rest word) :
      Sentence grammar (.required (.terminal terminal) :: rest) (token :: word)
  | once {symbol : NonTerminal} {production : Production} {rest : List Element}
      {inner word : List Token} (listed : grammar.Lists symbol.name production)
      (within : Sentence grammar production inner) (after : Sentence grammar rest word) :
      Sentence grammar (.required (.nonTerminal symbol) :: rest) (inner ++ word)
  | again {symbol : NonTerminal} {production : Production} {rest : List Element}
      {inner word : List Token} (listed : grammar.Lists symbol.name production)
      (within : Sentence grammar production inner)
      (after : Sentence grammar (.required (.nonTerminal symbol) :: rest) word) :
      Sentence grammar (.required (.nonTerminal symbol) :: rest) (inner ++ word)
  | absent {symbol : Option Symbol} {rest : List Element} {word : List Token}
      (after : Sentence grammar rest word) : Sentence grammar (.optional symbol :: rest) word
  | presentTerminal {terminal : Terminal} {token : Token} {rest : List Element}
      {word : List Token} (accepted : terminal.accepts token = true)
      (after : Sentence grammar rest word) :
      Sentence grammar (.optional (some (.terminal terminal)) :: rest) (token :: word)
  | presentNonTerminal {symbol : NonTerminal} {production : Production} {rest : List Element}
      {inner word : List Token} (listed : grammar.Lists symbol.name production)
      (within : Sentence grammar production inner) (after : Sentence grammar rest word) :
      Sentence grammar (.optional (some (.nonTerminal symbol)) :: rest) (inner ++ word)

/-- The word belongs to the language of the nonterminal. -/
def Generates (grammar : Grammar) (symbol : String) (word : List Token) : Prop :=
  ∃ production, grammar.Lists symbol production ∧ grammar.Sentence production word

end Grammar

def Node.IsBranch (name : String) (tree : Tree) : Prop :=
  ∃ start stop children, tree = .branch name start stop children

def Suits (tokens : List Token) : Element → List Tree → Prop
  | .required (.terminal terminal), group =>
    ∃ position token, tokens[position]? = some token ∧ terminal.accepts token = true ∧
      group = [.leaf token.kind token.lexeme position (position + 1)]
  | .required (.nonTerminal symbol), group =>
    group ≠ [] ∧ (∀ tree ∈ group, Node.IsBranch symbol.name tree) ∧
      (2 ≤ group.length → ∀ tree ∈ group, tree.start < tree.stop)
  | .optional none, group => group = []
  | .optional (some (.terminal terminal)), group =>
    group = [] ∨ ∃ position token, tokens[position]? = some token ∧
      terminal.accepts token = true ∧
      group = [.leaf token.kind token.lexeme position (position + 1)]
  | .optional (some (.nonTerminal symbol)), group =>
    group = [] ∨ ∃ tree, group = [tree] ∧ Node.IsBranch symbol.name tree

/-- The children of every branch split, in order, into groups for the elements of a
production. -/
inductive Derivation (grammar : Grammar) (tokens : List Token) : Tree → Prop where
  | leaf {kind lexeme : String} {start stop : Nat} :
      Derivation grammar tokens (.leaf kind lexeme start stop)
  | branch {name : String} {start stop : Nat} {production : Production}
      {groups : List (List Tree)} (listed : grammar.Lists name production)
      (suits : List.Forall₂ (Suits tokens) production groups)
      (derived : ∀ child ∈ groups.flatten, Derivation grammar tokens child) :
      Derivation grammar tokens (.branch name start stop groups.flatten)

section Words

variable {grammar : Grammar} {tokens : List Token}

theorem extract_self {α : Type} {list : List α} (start : Nat) :
    list.extract start start = [] := by
  simp [List.extract]

theorem extract_append {α : Type} {list : List α} {start middle stop : Nat}
    (left : start ≤ middle) (right : middle ≤ stop) :
    list.extract start stop = list.extract start middle ++ list.extract middle stop := by
  have whole : stop - start = (middle - start) + (stop - middle) := by omega
  have reached : list.drop middle = (list.drop start).drop (middle - start) := by
    rw [List.drop_drop, Nat.add_sub_cancel' left]
  simp only [List.extract]
  rw [whole, List.take_add, reached]

theorem extract_single {α : Type} {list : List α} {position : Nat} {item : α}
    (there : list[position]? = some item) : list.extract position (position + 1) = [item] := by
  obtain ⟨inside, found⟩ := List.getElem?_eq_some_iff.mp there
  simp only [List.extract, Nat.add_sub_cancel_left]
  rw [List.drop_eq_getElem_cons inside, List.take_succ_cons, List.take_zero, found]

/-- What the branches among some trees cover are words of their nonterminals. -/
def Spelled (grammar : Grammar) (tokens : List Token) (trees : List Tree) : Prop :=
  ∀ tree ∈ trees, tree.start ≤ tree.stop ∧ ∀ name, Node.IsBranch name tree →
    grammar.Generates name (tokens.extract tree.start tree.stop)

theorem Spelled.left {front back : List Tree} (spelled : Spelled grammar tokens (front ++ back)) :
    Spelled grammar tokens front :=
  fun tree member => spelled tree (List.mem_append_left _ member)

theorem Spelled.right {front back : List Tree} (spelled : Spelled grammar tokens (front ++ back)) :
    Spelled grammar tokens back :=
  fun tree member => spelled tree (List.mem_append_right _ member)

theorem Spelled.le {trees : List Tree} {start stop : Nat}
    (spelled : Spelled grammar tokens trees) (tiles : Tiles start trees stop) : start ≤ stop :=
  tiles.le fun tree member => (spelled tree member).1

theorem sentence_repeated {symbol : NonTerminal} {group : List Tree} {rest : List Element}
    {start middle : Nat} {word : List Token} (filled : group ≠ [])
    (branches : ∀ tree ∈ group, Node.IsBranch symbol.name tree)
    (tiles : Tiles start group middle) (spelled : Spelled grammar tokens group)
    (after : grammar.Sentence rest word) :
    grammar.Sentence (.required (.nonTerminal symbol) :: rest)
      (tokens.extract start middle ++ word) := by
  induction group generalizing start with
  | nil => exact absurd rfl filled
  | cons tree more ih =>
    obtain ⟨rfl, tiles⟩ := tiles
    obtain ⟨production, listed, within⟩ :=
      (spelled tree List.mem_cons_self).2 _ (branches tree List.mem_cons_self)
    cases more with
    | nil =>
      cases tiles
      exact .once listed within after
    | cons next later =>
      have others : Spelled grammar tokens (next :: later) :=
        fun other member => spelled other (List.mem_cons_of_mem _ member)
      rw [extract_append (spelled tree List.mem_cons_self).1 (others.le tiles), List.append_assoc]
      refine .again listed within (ih nofun ?_ tiles others)
      exact fun other member => branches other (List.mem_cons_of_mem _ member)

theorem sentence_of_suits {elements : List Element} {groups : List (List Tree)}
    {start stop : Nat} (suits : List.Forall₂ (Suits tokens) elements groups)
    (tiles : Tiles start groups.flatten stop)
    (spelled : Spelled grammar tokens groups.flatten) :
    grammar.Sentence elements (tokens.extract start stop) := by
  -- Along the elements: the first group covers a range of the tokens from `start`, and
  -- the other groups the rest.
  induction suits generalizing start with
  | nil =>
    cases tiles
    rw [extract_self]
    exact .nil
  | @cons element group elements groups suit _ ih =>
    rw [List.flatten_cons] at tiles spelled
    obtain ⟨middle, front, back⟩ := tiles_append.mp tiles
    have after := ih back spelled.right
    rw [extract_append (spelled.left.le front) (spelled.right.le back)]
    have leaf {position : Nat} {token : Token} (there : tokens[position]? = some token)
        (same : group = [.leaf token.kind token.lexeme position (position + 1)]) :
        tokens.extract start middle = [token] := by
      subst same
      obtain ⟨rfl, rfl⟩ := front
      exact extract_single there
    have nothing (empty : group = []) : tokens.extract start middle = [] := by
      subst empty
      cases front
      exact extract_self _
    cases element with
    | required symbol =>
      cases symbol with
      | terminal terminal =>
        obtain ⟨position, token, there, accepted, same⟩ := suit
        rw [leaf there same]
        exact .terminal accepted after
      | nonTerminal symbol =>
        obtain ⟨filled, branches, _⟩ := suit
        exact sentence_repeated filled branches front spelled.left after
    | optional symbol =>
      cases symbol with
      | none =>
        rw [nothing suit]
        exact .absent after
      | some symbol =>
        cases symbol with
        | terminal terminal =>
          rcases suit with empty | ⟨position, token, there, accepted, same⟩
          · rw [nothing empty]
            exact .absent after
          · rw [leaf there same]
            exact .presentTerminal accepted after
        | nonTerminal symbol =>
          rcases suit with empty | ⟨tree, rfl, branch⟩
          · rw [nothing empty]
            exact .absent after
          · obtain ⟨rfl, rfl⟩ := front
            obtain ⟨production, listed, within⟩ :=
              (spelled.left tree (List.mem_singleton.mpr rfl)).2 _ branch
            exact .presentNonTerminal listed within after

/-- A derivation tree spells a word of its nonterminal. -/
theorem Derivation.generates {tree : Tree} {name : String}
    (derivation : Derivation grammar tokens tree) (tiled : Tiled tokens tree)
    (branch : Node.IsBranch name tree) :
    grammar.Generates name (tokens.extract tree.start tree.stop) := by
  induction derivation generalizing name with
  | leaf =>
    obtain ⟨_, _, _, same⟩ := branch
    cases same
  | branch listed suits _ ih =>
    obtain ⟨_, _, _, same⟩ := branch
    cases same
    cases tiled with
    | branch tiles tiled =>
      refine ⟨_, listed, sentence_of_suits suits tiles fun child member => ?_⟩
      exact ⟨(tiled child member).le,
        fun name branch => ih child member (tiled child member) branch⟩

end Words

end Descent
