import Descent.Terminal

/-! Grammar rules and the productions they stand for.

A rule combines symbols by choice and sequence. Flattening resolves its choices
from left to right and yields one production for each resolution. A production
is a sequence of elements, each a symbol that must be there or one that may.
-/

set_option autoImplicit false

namespace Descent

/-- A nonterminal is what its serial number says; two of them may share a name. -/
structure NonTerminal where
  serial : Nat
  name : String
  location : Location
  deriving DecidableEq, Repr

inductive Symbol where
  | terminal (terminal : Terminal)
  | nonTerminal (nonTerminal : NonTerminal)
  deriving DecidableEq, Repr

inductive Element where
  | required (symbol : Symbol)
  | optional (symbol : Option Symbol)
  deriving DecidableEq, Repr

abbrev Production := List Element

/-- An `abstract` rule has no meaning of its own, and so no productions. -/
inductive Rule where
  | symbol (symbol : Symbol)
  | optional (symbol : Option Symbol)
  | choice (left right : Rule)
  | sequence (first second : Rule)
  | nothing
  | abstract
  deriving DecidableEq, Repr

namespace Symbol

def display : Symbol → String
  | terminal t => t.criterion.display
  | nonTerminal n => n.name

def debug : Symbol → String
  | terminal t => "Terminal(" ++ t.criterion.display ++ ")"
  | nonTerminal n => n.name

def nonTerminal? : Symbol → Option NonTerminal
  | nonTerminal n => some n
  | terminal _ => none

def terminal? : Symbol → Option Terminal
  | terminal t => some t
  | nonTerminal _ => none

end Symbol

namespace Element

def symbol? : Element → Option Symbol
  | required symbol => some symbol
  | optional symbol => symbol

def display : Element → String
  | required symbol => symbol.display
  | optional none => "[]"
  | optional (some symbol) => "[" ++ symbol.display ++ "]"

def debug : Element → String
  | required symbol => symbol.debug
  | optional none => "[]"
  | optional (some symbol) => "[" ++ symbol.debug ++ "]"

end Element

namespace Production

def nonTerminals (production : Production) : List NonTerminal :=
  production.filterMap fun element => element.symbol?.bind Symbol.nonTerminal?

def terminals (production : Production) : List Terminal :=
  production.filterMap fun element => element.symbol?.bind Symbol.terminal?

/-- A production without text is written as an epsilon. -/
def display (production : Production) : String :=
  let text := " ".intercalate (production.map Element.display)
  if text = "" then "ε" else text

end Production

namespace Rule

/-- The productions of a rule, the leftmost choice varying slowest; none if an
abstract rule occurs anywhere in it. -/
def flatten? : Rule → Option (List Production)
  | symbol s => some [[.required s]]
  | optional s => some [[.optional s]]
  | choice left right => do
    let first ← left.flatten?
    let second ← right.flatten?
    return first ++ second
  | sequence first second => do
    let heads ← first.flatten?
    let tails ← second.flatten?
    return heads.flatMap fun head => tails.map (head ++ ·)
  | nothing => some [[]]
  | abstract => none

def choices (first : Rule) (rest : List Rule) : Rule := rest.foldl choice first

def sequences (first : Rule) (rest : List Rule) : Rule := rest.foldl sequence first

def debug : Rule → String
  | symbol s => s.debug
  | optional s => (Element.optional s).debug
  | choice _ _ => "<pushdown.grammar.AlternativeRule object>"
  | sequence _ _ => "<pushdown.grammar.SequenceRule object>"
  | nothing => "<pushdown.grammar.NothingRule object>"
  | abstract => "<pushdown.grammar.Rule object>"

theorem flatten?_ne_nil {rule : Rule} {productions : List Production}
    (flat : rule.flatten? = some productions) : productions ≠ [] := by
  induction rule generalizing productions with
  | symbol | optional | nothing => cases flat; simp
  | abstract => cases flat
  | choice left right ihLeft ihRight =>
    cases first : left.flatten? with
    | none => simp [flatten?, first] at flat
    | some heads =>
      cases second : right.flatten? with
      | none => simp [flatten?, first, second] at flat
      | some tails =>
        simp only [flatten?, first, second] at flat
        cases flat
        simp [ihLeft first]
  | sequence left right ihLeft ihRight =>
    cases first : left.flatten? with
    | none => simp [flatten?, first] at flat
    | some heads =>
      cases second : right.flatten? with
      | none => simp [flatten?, first, second] at flat
      | some tails =>
        simp only [flatten?, first, second] at flat
        cases flat
        cases heads with
        | nil => exact absurd rfl (ihLeft first)
        | cons head heads =>
          cases tails with
          | nil => exact absurd rfl (ihRight second)
          | cons tail tails => simp

end Rule

end Descent
