import Descent.Text.Quoted

/-! Plain values that can stand where a grammar rule is asked for. A text is
read as a terminal there, every other plain value is refused and shown. -/

set_option autoImplicit false

namespace Descent

/-- A number is `mantissa` divided by ten `places` times. -/
inductive Literal where
  | null
  | bool (value : Bool)
  | number (mantissa : Int) (places : Nat)
  | text (value : String)
  | list (items : List Literal)
  deriving Repr

namespace Literal

/-- Decimal notation with exactly `places` digits after the point. -/
def decimal (mantissa : Int) (places : Nat) : String :=
  if places = 0 then toString mantissa
  else
    let sign := if mantissa < 0 then "-" else ""
    let digits := toString mantissa.natAbs
    let padded := String.ofList (List.replicate (places + 1 - digits.length) '0') ++ digits
    let whole := padded.length - places
    sign ++ (padded.take whole).toString ++ "." ++ (padded.drop whole).toString

mutual

def display : Literal → String
  | null => "None"
  | bool true => "True"
  | bool false => "False"
  | number mantissa places => decimal mantissa places
  | text value => Text.quoted value
  | list items => Text.bracketed (displayAll items)

def displayAll : List Literal → List String
  | [] => []
  | item :: rest => item.display :: displayAll rest

end

/-- What plain values make one behind the other: texts a text, and lists a list. Sums of numbers
are left out, as no rule is made of them. -/
def append? : Literal → Literal → Option Literal
  | text a, text b => some (text (a ++ b))
  | list a, list b => some (list (a ++ b))
  | _, _ => none

mutual

/-- Truth values count as the numbers zero and one. -/
def same : Literal → Literal → Bool
  | null, null => true
  | text a, text b => a == b
  | list a, list b => sameAll a b
  | bool a, bool b => a == b
  | bool a, number m p | number m p, bool a => m == (if a then 10 ^ p else 0)
  | number m p, number n q => m * 10 ^ q == n * 10 ^ p
  | _, _ => false

def sameAll : List Literal → List Literal → Bool
  | [], [] => true
  | a :: as, b :: bs => same a b && sameAll as bs
  | _, _ => false

end

end Literal

end Descent
