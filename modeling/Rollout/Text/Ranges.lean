/-!
# Ranges of code points

A Unicode property is carried as a list of closed ranges of code points.
-/

namespace Rollout.Text

/-- Whether the code point lies in one of the closed ranges. -/
def inRanges (ranges : List (Nat × Nat)) (n : Nat) : Bool :=
  ranges.any fun r => r.1 ≤ n && n ≤ r.2

section

variable {ranges : List (Nat × Nat)} {n : Nat}

theorem inRanges_iff : inRanges ranges n = true ↔ ∃ r ∈ ranges, r.1 ≤ n ∧ n ≤ r.2 := by
  simp [inRanges]

theorem inRanges_eq_false (h : ∀ r ∈ ranges, n < r.1 ∨ r.2 < n) : inRanges ranges n = false := by
  rw [Bool.eq_false_iff, ne_eq, inRanges_iff]
  rintro ⟨r, hr, hfirst, hlast⟩
  have := h r hr
  omega

end

end Rollout.Text
