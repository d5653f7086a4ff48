/-!
# Interval tables

A property of characters that a standard gives by closed intervals of code points.

* `Intervals`: the table; `Intervals.holds`: some interval of it contains the code point.
-/

namespace ReducerAtlas.Text

/-- Closed intervals of code points, in increasing order. -/
abbrev Intervals := List (Nat × Nat)

/-- Some interval of the table contains the code point. -/
def Intervals.holds (table : Intervals) (code : Nat) : Bool :=
  table.any fun interval => interval.1 ≤ code && code ≤ interval.2

theorem Intervals.holds_iff {table : Intervals} {code : Nat} :
    table.holds code = true ↔ ∃ i ∈ table, i.1 ≤ code ∧ code ≤ i.2 := by
  simp [Intervals.holds]

end ReducerAtlas.Text
