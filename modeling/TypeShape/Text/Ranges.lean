/-!
# Sets of code points

A set of code points is a list of closed ranges in ascending order. Main statement: below the first
range nothing is found, so the search may stop there.
-/

namespace TypeShape.Text

/-- A set of code points: closed ranges, disjoint and in ascending order. -/
abbrev Ranges := List (Nat × Nat)

/-- The code point lies in one of the ranges; the search ends at the first range above it. -/
def Ranges.contains : Ranges → Nat → Bool
  | [], _ => false
  | (low, high) :: above, n => low ≤ n && (n ≤ high || Ranges.contains above n)

@[simp] theorem Ranges.contains_nil (n : Nat) : Ranges.contains [] n = false := rfl

theorem Ranges.contains_of_lt {low high n : Nat} (above : Ranges) (h : n < low) :
    Ranges.contains ((low, high) :: above) n = false := by
  simp [Ranges.contains, Nat.not_le.2 h]

end TypeShape.Text
