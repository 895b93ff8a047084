import Mathlib.Data.List.DropRight
import Nomenclator.Proofs.Unicode.Ascii
import Nomenclator.Unicode.WhiteSpace

/-!
# Trimming

Trimming takes white space off both ends, so it does not see white space that is put there
(`trim_append_whiteSpace`), and it can be done on the two sides of a character that is no white space
separately (`trim_append_cons`). Small letters are white space where capitals are, which is nowhere
(`trim_lowerAscii`).
-/

namespace Nomenclator.Unicode

/-- The text without the white space at its front. -/
def trimStart (t : Text) : Text := t.dropWhile isWhiteSpace

/-- The text without the white space at its end. -/
def trimEnd (t : Text) : Text := t.rdropWhile isWhiteSpace

theorem trim_eq (t : Text) : trim t = trimEnd (trimStart t) := rfl

theorem trimEnd_append_whiteSpace {s : Text} (hs : ∀ c ∈ s, isWhiteSpace c = true) (t : Text) :
    trimEnd (t ++ s) = trimEnd t := by
  induction s using List.reverseRecOn with
  | nil => rw [List.append_nil]
  | append_singleton s c ih =>
    have hc : isWhiteSpace c = true := hs c (by simp)
    rw [← List.append_assoc, trimEnd, List.rdropWhile_concat_pos _ _ _ hc]
    exact ih fun d hd => hs d (by simp [hd])

theorem trimStart_append_cons {c : Char} (hc : isWhiteSpace c = false) (s t : Text) :
    trimStart (s ++ c :: t) = trimStart s ++ c :: t := by
  induction s with
  | nil => exact List.dropWhile_cons_of_neg (by simp [hc])
  | cons d s ih =>
    by_cases hd : isWhiteSpace d = true
    · rw [List.cons_append, trimStart, trimStart, List.dropWhile_cons_of_pos hd,
        List.dropWhile_cons_of_pos hd]
      exact ih
    · rw [List.cons_append, trimStart, trimStart, List.dropWhile_cons_of_neg hd,
        List.dropWhile_cons_of_neg hd]
      rfl

theorem trimEnd_append_cons {c : Char} (hc : isWhiteSpace c = false) (s t : Text) :
    trimEnd (s ++ c :: t) = s ++ c :: trimEnd t := by
  have hreverse : (s ++ c :: t).reverse = t.reverse ++ c :: s.reverse := by simp
  have hstart := trimStart_append_cons hc t.reverse s.reverse
  unfold trimStart at hstart
  rw [trimEnd, List.rdropWhile, hreverse, hstart, trimEnd, List.rdropWhile]
  simp

/-- Around a character that is no white space, the front is trimmed at its front and the end at its
end. -/
theorem trim_append_cons {c : Char} (hc : isWhiteSpace c = false) (s t : Text) :
    trim (s ++ c :: t) = trimStart s ++ c :: trimEnd t := by
  rw [trim_eq, trimStart_append_cons hc, trimEnd_append_cons hc]

theorem trim_append_whiteSpace {s : Text} (hs : ∀ c ∈ s, isWhiteSpace c = true) (t : Text) :
    trim (t ++ s) = trim t := by
  induction t with
  | nil =>
    have hnil : trimStart s = [] := List.dropWhile_eq_nil_iff.2 hs
    rw [List.nil_append, trim_eq, hnil]
    rfl
  | cons c t ih =>
    by_cases hc : isWhiteSpace c = true
    · rw [List.cons_append, trim_eq, trim_eq, trimStart, trimStart, List.dropWhile_cons_of_pos hc,
        List.dropWhile_cons_of_pos hc]
      exact ih
    · rw [List.cons_append, trim_eq, trim_eq, trimStart, trimStart, List.dropWhile_cons_of_neg hc,
        List.dropWhile_cons_of_neg hc]
      exact trimEnd_append_whiteSpace hs (c :: t)

@[simp] theorem trim_trimStart (t : Text) : trim (trimStart t) = trim t := by
  rw [trim_eq, trimStart, trimStart, List.dropWhile_idempotent]
  rfl

/-- What is taken off the end of a text is white space. -/
@[simp] theorem trim_trimEnd (t : Text) : trim (trimEnd t) = trim t := by
  obtain ⟨s, hs, ht⟩ : ∃ s : Text, (∀ c ∈ s, isWhiteSpace c = true) ∧ t = trimEnd t ++ s := by
    refine ⟨(t.reverse.takeWhile isWhiteSpace).reverse, ?_, ?_⟩
    · intro c hc
      exact List.all_eq_true.1 List.all_takeWhile c (List.mem_reverse.1 hc)
    · rw [trimEnd, List.rdropWhile, ← List.reverse_append, List.takeWhile_append_dropWhile,
        List.reverse_reverse]
  have hself := trim_append_whiteSpace hs (trimEnd t)
  rw [← ht] at hself
  exact hself.symm

/-- Only ASCII capitals have another small form, and neither is white space. -/
theorem isWhiteSpace_toLower (c : Char) : isWhiteSpace c.toLower = isWhiteSpace c := by
  rcases Nat.lt_or_ge c.toNat 128 with hc | hc
  · exact forall_ascii (P := fun c => isWhiteSpace c.toLower = isWhiteSpace c) (by decide) hc
  · rw [toLower_eq_self_of_ge hc]

theorem trim_lowerAscii (t : Text) : trim (Text.lowerAscii t) = Text.lowerAscii (trim t) := by
  have hlower : isWhiteSpace ∘ Char.toLower = isWhiteSpace := funext isWhiteSpace_toLower
  unfold trim Text.lowerAscii
  rw [List.dropWhile_map, hlower, ← List.map_reverse, List.dropWhile_map, hlower, List.map_reverse]

end Nomenclator.Unicode
