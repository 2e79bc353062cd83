import Descent.Text.CaseFold
import Descent.Text.CharClass

/-! Patterns of text, in the form in which they are matched.

A part of a repeated pattern that is given back is given back from the right,
unless it is atomic. Groups keep the text that they matched last.
-/

set_option autoImplicit false

namespace Descent

inductive Category where
  | word
  | digit
  | space
  deriving DecidableEq, Repr

/-- By which characters are told apart: with regard to case or without, and for case and categories
in all of the character set or in ASCII alone. -/
structure Rules where
  ignoreCase : Bool
  ascii : Bool
  deriving DecidableEq, Repr

namespace Rules

def lower (rules : Rules) (code : Nat) : Nat :=
  if rules.ascii then Text.asciiLower code else Text.lowerCode code

/-- The code points that count as the given one. -/
def variants (rules : Rules) (code : Nat) : List Nat :=
  if !rules.ignoreCase then [code]
  else if rules.ascii then Text.asciiVariants code
  else Text.caseVariants code

def same (rules : Rules) (c d : Char) : Bool :=
  if rules.ignoreCase then rules.lower c.toNat == rules.lower d.toNat else c == d

end Rules

def Category.has (category : Category) (ascii : Bool) (c : Char) : Bool :=
  match category with
  | word => if ascii then c.isAlphanum || c == '_' else Text.isWord c
  | digit => if ascii then c.isDigit else Text.isDigit c
  | space => if ascii then Text.isBlank c else Text.isSpace c

/-- A member of a character set: a range of code points, or a category or what is
outside one. -/
inductive ClassItem where
  | range (first last : Nat)
  | category (kind : Category) (outside : Bool)
  deriving DecidableEq, Repr

def ClassItem.has (item : ClassItem) (rules : Rules) (c : Char) : Bool :=
  match item with
  | range first last =>
    (rules.variants c.toNat).any fun code => first ≤ code && code ≤ last
  | .category kind outside => kind.has rules.ascii c != outside

/-- What a pattern asks of one character. -/
inductive CharTest where
  | any (lineBreaks : Bool)
  | set (negated : Bool) (rules : Rules) (items : List ClassItem)
  deriving DecidableEq, Repr

namespace CharTest

def literal (rules : Rules) (code : Nat) : CharTest := set false rules [.range code code]

def accepts (test : CharTest) (c : Char) : Bool :=
  match test with
  | any lineBreaks => lineBreaks || c != '\n'
  | set negated rules items => (items.any fun item => item.has rules c) != negated

end CharTest

inductive Anchor where
  | textStart
  | lineStart
  | textEnd
  | lastLineEnd
  | lineEnd
  | wordBoundary (ascii : Bool)
  | noWordBoundary (ascii : Bool)
  deriving DecidableEq, Repr

/-- `look` asks for its body ahead of a place, or behind it when the number of
characters to go back is given. `conditional` depends on whether a group matched. -/
inductive Pattern where
  | empty
  | one (test : CharTest)
  | anchor (place : Anchor)
  | sequence (first second : Pattern)
  | choice (left right : Pattern)
  | repeated (body : Pattern) (least : Nat) (most : Option Nat) (lazy : Bool)
  | group (index : Nat) (body : Pattern)
  | reference (index : Nat) (rules : Rules)
  | conditional (index : Nat) (yes no : Pattern)
  | look (behind : Option Nat) (negated : Bool) (body : Pattern)
  | atomic (body : Pattern)
  deriving DecidableEq, Repr

/-- The fewest and the most characters that a pattern can match; `most` is absent
if there is no bound. -/
structure Width where
  least : Nat
  most : Option Nat
  deriving DecidableEq, Repr

namespace Width

def exactly (n : Nat) : Width := ⟨n, some n⟩

def add (a b : Width) : Width :=
  ⟨a.least + b.least, do return (← a.most) + (← b.most)⟩

def join (a b : Width) : Width :=
  ⟨min a.least b.least, do return max (← a.most) (← b.most)⟩

def times (width : Width) (least : Nat) (most : Option Nat) : Width where
  least := width.least * least
  most :=
    if width.most = some 0 ∨ most = some 0 then some 0
    else do return (← width.most) * (← most)

def fixed? (width : Width) : Option Nat :=
  if width.most = some width.least then some width.least else none

end Width

namespace Pattern

def ofList (patterns : List Pattern) : Pattern := patterns.foldr sequence empty

def alternatives (first : Pattern) : List Pattern → Pattern
  | [] => first
  | second :: rest => choice first (alternatives second rest)

def width (groups : Nat → Width) : Pattern → Width
  | empty | anchor _ | look _ _ _ => .exactly 0
  | one _ => .exactly 1
  | sequence first second => (first.width groups).add (second.width groups)
  | choice left right | conditional _ left right => (left.width groups).join (right.width groups)
  | repeated body least most _ => (body.width groups).times least most
  | group _ body | atomic body => body.width groups
  | reference index _ => groups index

end Pattern

end Descent
