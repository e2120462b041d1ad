/-
  This file defines character classes given by ranges of
  code points, the form in which the tables of this folder
  are written.

  Key definitions include:
    * `Ranges`
    * `Ranges.has`
-/

namespace Marginalia

------------------------------------------------------------
-- Ranges of Code Points
------------------------------------------------------------

/-
  A set of code points, written as its inclusive ranges in
  increasing order.
-/
abbrev Ranges :=
  List (Nat × Nat)

namespace Ranges

/-
  Membership of a code point. The search stops at the first
  range that lies beyond the code point, which is right
  because the ranges increase.
-/
def has : Ranges → Nat → Bool
  | [], _ => false
  | (low, high) :: rest, n =>
      if n < low then false
      else if n ≤ high then true
      else has rest n

end Ranges

end Marginalia
