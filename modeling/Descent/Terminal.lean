import Descent.Token

/-! Terminals and sets of them.

Two terminals ask for the same tokens exactly when their criteria are equal.
Names and locations tell them apart for authors only, so a set holds one
terminal for each criterion, and the first one that entered stays.
-/

set_option autoImplicit false

namespace Descent

structure Location where
  source : String
  line : Nat
  deriving DecidableEq, Repr

def Location.display (location : Location) : String :=
  location.source ++ ":" ++ toString location.line

inductive Criterion where
  | lexeme (text : String)
  | kind (name : String)
  | both (text name : String)
  deriving DecidableEq, Repr

namespace Criterion

def of? : Option String → Option String → Option Criterion
  | some text, some name => some (both text name)
  | some text, none => some (lexeme text)
  | none, some name => some (kind name)
  | none, none => none

def lexeme? : Criterion → Option String
  | lexeme text | both text _ => some text
  | kind _ => none

def kind? : Criterion → Option String
  | kind name | both _ name => some name
  | lexeme _ => none

def accepts (criterion : Criterion) (token : Token) : Bool :=
  match criterion with
  | lexeme text => token.lexeme == text
  | kind name => token.kind == name
  | both text name => token.lexeme == text && token.kind == name

/-- The lexeme in quotes, and the kind only where there is no lexeme. -/
def display : Criterion → String
  | lexeme text | both text _ => "\"" ++ text ++ "\""
  | kind name => name

/-- A missing lexeme comes first, then lexemes in code point order, then kinds alike. -/
def order (a b : Criterion) : Ordering :=
  (compare a.lexeme? b.lexeme?).then (compare a.kind? b.kind?)

end Criterion

structure Terminal where
  criterion : Criterion
  name : String
  location : Location
  deriving DecidableEq, Repr

namespace Terminal

/-- Without a name of its own a terminal is called by its lexeme, else by its kind. -/
def of (criterion : Criterion) (name : Option String) (location : Location) : Terminal where
  criterion := criterion
  name := name.getD (match criterion with
    | .lexeme text | .both text _ => text
    | .kind kind => kind)
  location := location

def accepts (terminal : Terminal) (token : Token) : Bool := terminal.criterion.accepts token

def same (a b : Terminal) : Bool := a.criterion == b.criterion

end Terminal

structure TerminalSet where
  toList : List Terminal
  distinct : (toList.map Terminal.criterion).Nodup
  deriving DecidableEq

namespace TerminalSet

def empty : TerminalSet := ⟨[], List.nodup_nil⟩

def single (terminal : Terminal) : TerminalSet := ⟨[terminal], by simp⟩

def size (set : TerminalSet) : Nat := set.toList.length

def criteria (set : TerminalSet) : List Criterion := set.toList.map Terminal.criterion

def insert (set : TerminalSet) (terminal : Terminal) : TerminalSet :=
  if fresh : terminal.criterion ∈ set.criteria then set
  else ⟨set.toList ++ [terminal], by
    rw [List.map_append, List.nodup_append]
    refine ⟨set.distinct, by simp, ?_⟩
    intro a member b same equal
    simp only [List.map_cons, List.map_nil, List.mem_singleton] at same
    exact fresh (same ▸ equal ▸ member)⟩

def ofList (terminals : List Terminal) : TerminalSet := terminals.foldl insert empty

def merge (items other : TerminalSet) : TerminalSet := other.toList.foldl insert items

/-- Merge, and tell whether that added anything. -/
def update (items other : TerminalSet) : TerminalSet × Bool :=
  let merged := items.merge other
  (merged, items.size != merged.size)

def accepts (set : TerminalSet) (token : Token) : Bool := set.toList.any (·.accepts token)

def sorted (set : TerminalSet) : List Terminal :=
  set.toList.mergeSort fun a b => (a.criterion.order b.criterion).isLE

@[simp] theorem criteria_empty : empty.criteria = [] := rfl

theorem mem_criteria_insert (set : TerminalSet) (terminal : Terminal) (criterion : Criterion) :
    criterion ∈ (set.insert terminal).criteria ↔
      criterion ∈ set.criteria ∨ criterion = terminal.criterion := by
  unfold insert
  split
  · constructor
    · exact Or.inl
    · rintro (old | rfl)
      · exact old
      · assumption
  · simp [criteria]

theorem size_le_size_insert (set : TerminalSet) (terminal : Terminal) :
    set.size ≤ (set.insert terminal).size := by
  unfold insert size
  split <;> simp

end TerminalSet

end Descent
