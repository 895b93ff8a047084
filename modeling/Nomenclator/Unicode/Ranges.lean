/-!
# Code point ranges

A character property is a list of ranges of code points, in rising order and apart from one
another. Membership stops at the first range that starts beyond the character, so a character at
the front of the table costs a step or two.
-/

namespace Nomenclator.Unicode

/-- The number is in one of the ranges, which stand in rising order. -/
def inRanges : List (Nat × Nat) → Nat → Bool
  | [], _ => false
  | (first, last) :: rest, n =>
    if n < first then false else if n ≤ last then true else inRanges rest n

/-- The ranges rise and do not meet, and all of them start at `bound` or beyond. -/
def Rising : Nat → List (Nat × Nat) → Prop
  | _, [] => True
  | bound, (first, last) :: rest => bound ≤ first ∧ first ≤ last ∧ Rising (last + 1) rest

theorem le_of_rising_of_mem {bound : Nat} {ranges : List (Nat × Nat)} (h : Rising bound ranges)
    {r : Nat × Nat} (hr : r ∈ ranges) : bound ≤ r.1 := by
  induction ranges generalizing bound with
  | nil => simp at hr
  | cons s rest ih =>
    obtain ⟨first, last⟩ := s
    obtain ⟨h1, h2, h3⟩ := h
    rcases List.mem_cons.1 hr with rfl | hr
    · exact h1
    · have := ih h3 hr
      omega

/-- On a rising table the early stop loses no range. -/
theorem inRanges_iff {bound : Nat} {ranges : List (Nat × Nat)} (h : Rising bound ranges)
    (n : Nat) : inRanges ranges n = true ↔ ∃ r ∈ ranges, r.1 ≤ n ∧ n ≤ r.2 := by
  induction ranges generalizing bound with
  | nil => simp [inRanges]
  | cons s rest ih =>
    obtain ⟨first, last⟩ := s
    obtain ⟨_, hle, hrest⟩ := h
    by_cases h1 : n < first
    · have hout : ∀ r ∈ (first, last) :: rest, ¬ (r.1 ≤ n ∧ n ≤ r.2) := by
        intro r hr hin
        rcases List.mem_cons.1 hr with rfl | hr
        · exact absurd hin.1 (by simpa using h1)
        · have := le_of_rising_of_mem hrest hr
          omega
      simp only [inRanges, if_pos h1, Bool.false_eq_true, false_iff]
      rintro ⟨r, hr, hin⟩
      exact hout r hr hin
    · by_cases h2 : n ≤ last
      · simp only [inRanges, if_neg h1, if_pos h2, true_iff]
        exact ⟨(first, last), by simp, by simpa using h1, h2⟩
      · simp only [inRanges, if_neg h1, if_neg h2]
        rw [ih hrest]
        constructor
        · rintro ⟨r, hr, hin⟩
          exact ⟨r, List.mem_cons_of_mem _ hr, hin⟩
        · rintro ⟨r, hr, hin⟩
          rcases List.mem_cons.1 hr with rfl | hr
          · exact absurd hin.2 h2
          · exact ⟨r, hr, hin⟩

end Nomenclator.Unicode
