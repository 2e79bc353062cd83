import Descent.Definition

/-! How the derivations of each nonterminal can begin.

An opening holds the terminals that can come first and says whether a
derivation can be empty. The openings of a grammar are the least ones that its
productions allow. They are found in passes over all productions, from openings
that promise nothing, until a pass adds nothing.
-/

set_option autoImplicit false

namespace Descent

structure Opening where
  first : TerminalSet
  nullable : Bool
  deriving DecidableEq

def Opening.bottom : Opening := ⟨TerminalSet.empty, false⟩

/-- What an opening adds up to: its terminals, and one more if it is nullable. -/
def Opening.weight (opening : Opening) : Nat :=
  opening.first.size + if opening.nullable then 1 else 0

abbrev OpeningTable := List (String × Opening)

namespace OpeningTable

def opening (table : OpeningTable) (name : String) : Opening :=
  (table.lookup name).getD Opening.bottom

def update (table : OpeningTable) (name : String) (change : Opening → Opening) : OpeningTable :=
  table.map fun entry => if entry.1 == name then (entry.1, change entry.2) else entry

def ofSymbol (table : OpeningTable) : Symbol → Opening
  | .terminal terminal => ⟨TerminalSet.single terminal, false⟩
  | .nonTerminal symbol => table.opening symbol.name

def ofElement (table : OpeningTable) : Element → Opening
  | .required symbol => table.ofSymbol symbol
  | .optional .none => ⟨TerminalSet.empty, true⟩
  | .optional (some symbol) => ⟨(table.ofSymbol symbol).first, true⟩

/-- Add to one entry what a production can begin with: the terminals of each
element up to the first that cannot be empty, and emptiness if there is none. -/
def absorb (name : String) (table : OpeningTable) : Production → OpeningTable
  | [] => table.update name fun opening => { opening with nullable := true }
  | element :: rest =>
    let start := table.ofElement element
    let extended := table.update name fun opening =>
      { opening with first := opening.first.merge start.first }
    if start.nullable then absorb name extended rest else extended

/-- One pass over all productions, each of which sees what those before it added. -/
def pass (rules : List Definition) (table : OpeningTable) : OpeningTable :=
  rules.foldl (fun table rule => rule.productions.foldl (absorb rule.head.name) table) table

def weight (table : OpeningTable) : Nat :=
  table.foldr (fun entry total => entry.2.weight + total) 0

def saturate (rules : List Definition) : Nat → OpeningTable → OpeningTable
  | 0, table => table
  | passes + 1, table =>
    let next := pass rules table
    if next.weight = table.weight then next else saturate rules passes next

/-- Each pass but the last adds something, and there is no more to add than every
terminal, and emptiness, to every nonterminal. -/
def passBound (rules : List Definition) : Nat :=
  rules.length * ((rules.flatMap Definition.terminals).length + 1) + 1

def ofRules (rules : List Definition) : OpeningTable :=
  saturate rules (passBound rules) (rules.map fun rule => (rule.head.name, Opening.bottom))

end OpeningTable

end Descent
