/-!
# Sets of characters as ranges

A property of characters is given by the list of its ranges of code points, in
increasing order.
-/

namespace StoryServer

/-- Inclusive ranges of code points. -/
abbrev CodeRanges := List (Nat × Nat)

/-- Whether a code point lies in one of the ranges. -/
def CodeRanges.holds (rs : CodeRanges) (c : Nat) : Bool :=
  rs.any fun r => r.1 ≤ c && c ≤ r.2

@[simp] theorem CodeRanges.holds_nil (c : Nat) : CodeRanges.holds [] c = false := rfl

@[simp] theorem CodeRanges.holds_cons (r : Nat × Nat) (rs : CodeRanges) (c : Nat) :
    CodeRanges.holds (r :: rs) c = ((r.1 ≤ c && c ≤ r.2) || CodeRanges.holds rs c) := by
  simp [CodeRanges.holds]

end StoryServer
