/-! Sets of code points, written as ascending disjoint ranges. -/

set_option autoImplicit false

namespace Descent.Text

/-- Inclusive ranges of code points in ascending order. -/
abbrev CodePoints := List (Nat × Nat)

def CodePoints.has (ranges : CodePoints) (code : Nat) : Bool :=
  match ranges with
  | [] => false
  | (first, last) :: rest => if code < first then false else code ≤ last || CodePoints.has rest code

end Descent.Text
