/-! Sets of code points as lists of closed ranges. -/
namespace ServerForge.Unicode

/-- The first and the last code point of a range. -/
abbrev CodeRange := Nat × Nat

def covers (ranges : List CodeRange) (n : Nat) : Bool :=
  ranges.any fun range => decide (range.1 ≤ n) && decide (n ≤ range.2)

theorem covers_iff {ranges : List CodeRange} {n : Nat} :
    covers ranges n = true ↔ ∃ range ∈ ranges, range.1 ≤ n ∧ n ≤ range.2 := by
  simp [covers]

end ServerForge.Unicode
