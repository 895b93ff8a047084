import Nomenclator.Word.Breaking

/-!
# Separators are what is neither letter nor numeral

The word breaker asks first whether a character is a capital. As every capital is a letter
(`isAlphabetic_of_isUppercase`), a character belongs to a word exactly if it is a letter or a
numeral (`class_eq_separator_iff`).
-/

namespace Nomenclator

namespace Unicode

/-- Whether ranges rise can be decided by going along them. -/
instance decidableRising : ∀ bound ranges, Decidable (Rising bound ranges)
  | _, [] => isTrue trivial
  | bound, (first, last) :: rest =>
    have := decidableRising (last + 1) rest
    inferInstanceAs (Decidable (bound ≤ first ∧ first ≤ last ∧ Rising (last + 1) rest))

theorem rising_uppercaseRanges : Rising 0 uppercaseRanges := by decide +kernel

theorem rising_alphabeticRanges : Rising 0 alphabeticRanges := by decide +kernel

/-- What is left of the first ranges when each of the second takes from their front those that lie
within it. -/
def uncovered (inner outer : List (Nat × Nat)) : List (Nat × Nat) :=
  outer.foldl (fun left s => left.dropWhile fun r => decide (s.1 ≤ r.1) && decide (r.2 ≤ s.2)) inner

/-- If nothing is left, every range lies within one of the others. -/
theorem exists_cover {inner outer : List (Nat × Nat)} (h : uncovered inner outer = [])
    {r : Nat × Nat} (hr : r ∈ inner) : ∃ s ∈ outer, s.1 ≤ r.1 ∧ r.2 ≤ s.2 := by
  induction outer generalizing inner with
  | nil =>
    rw [show inner = [] from h] at hr
    cases hr
  | cons s outer ih =>
    rw [← List.takeWhile_append_dropWhile
      (p := fun r => decide (s.1 ≤ r.1) && decide (r.2 ≤ s.2)) (l := inner)] at hr
    rcases List.mem_append.1 hr with hr | hr
    · have hin := List.all_eq_true.1 List.all_takeWhile r hr
      exact ⟨s, List.mem_cons_self, by simpa using hin⟩
    · obtain ⟨s', hs', hin⟩ := ih h hr
      exact ⟨s', List.mem_cons_of_mem s hs', hin⟩

theorem uncovered_uppercaseRanges : uncovered uppercaseRanges alphabeticRanges = [] := by
  decide +kernel

/-- Every capital is a letter. -/
theorem isAlphabetic_of_isUppercase {c : Char} (h : isUppercase c = true) :
    isAlphabetic c = true := by
  obtain ⟨r, hr, hle, hge⟩ := (inRanges_iff rising_uppercaseRanges c.toNat).1 h
  obtain ⟨s, hs, hle', hge'⟩ := exists_cover uncovered_uppercaseRanges hr
  exact (inRanges_iff rising_alphabeticRanges c.toNat).2 ⟨s, hs, by omega, by omega⟩

end Unicode

theorem CharClass.of_eq_upper_iff {c : Char} :
    CharClass.of c = .upper ↔ Unicode.isUppercase c = true := by
  unfold CharClass.of
  repeat' split
  all_goals simp_all

/-- The separators are the characters that are neither letters nor numerals. -/
theorem CharClass.of_eq_separator_iff {c : Char} :
    CharClass.of c = .separator ↔
      Unicode.isAlphabetic c = false ∧ Unicode.isNumeric c = false := by
  by_cases hu : Unicode.isUppercase c = true
  · simp [CharClass.of, hu, Unicode.isAlphabetic_of_isUppercase hu]
  · by_cases ha : Unicode.isAlphabetic c = true
    · simp [CharClass.of, hu, ha]
    · by_cases hn : Unicode.isNumeric c = true
      · simp [CharClass.of, hu, ha, hn]
      · simp [CharClass.of, hu, ha, hn]

end Nomenclator
