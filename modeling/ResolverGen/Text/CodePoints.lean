/-!
# Code point classes

A class of code points is a sorted list of closed ranges.
-/
namespace ResolverGen.Text

/-- Closed ranges of code points, ascending and disjoint. -/
abbrev CodePoints := List (Nat × Nat)

/-- Membership in a class; the search stops at the first range that begins later. -/
def CodePoints.contains : CodePoints → Nat → Bool
  | [], _ => false
  | (first, last) :: rest, n =>
    if n < first then false else n ≤ last || CodePoints.contains rest n

end ResolverGen.Text
