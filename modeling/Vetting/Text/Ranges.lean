/-!
# Vetting.Text.Ranges

Sets of code points written as inclusive ranges. `CodeRanges.covers` decides membership, and
`CodeRanges.covers_iff` says what it decides.
-/

namespace Vetting

/-- A set of code points: the union of inclusive ranges. -/
abbrev CodeRanges := List (Nat × Nat)

namespace CodeRanges

/-- Whether a code point lies in one of the ranges. -/
def covers (ranges : CodeRanges) (code : Nat) : Bool :=
  ranges.any fun r => decide (r.1 ≤ code) && decide (code ≤ r.2)

theorem covers_iff {ranges : CodeRanges} {code : Nat} :
    covers ranges code = true ↔ ∃ r ∈ ranges, r.1 ≤ code ∧ code ≤ r.2 := by
  simp [covers]

@[simp] theorem covers_append (a b : CodeRanges) (code : Nat) :
    covers (a ++ b) code = (covers a code || covers b code) := by
  simp [covers, List.any_append]

/-- The first code point of the range that holds `code`. -/
def start? (ranges : CodeRanges) (code : Nat) : Option Nat :=
  (ranges.find? fun r => decide (r.1 ≤ code) && decide (code ≤ r.2)).map (·.1)

end CodeRanges

end Vetting
