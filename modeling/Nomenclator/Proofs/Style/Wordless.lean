import Nomenclator.Proofs.Style.Fixing

/-!
# Names without fixes

Fixing takes the affixes of a style off a name before it looks for words. So a name without words has
no fixes, but neither has a name whose words all lie in the affixes: `Get` has a word, and where names
of methods start with `Get` nothing is proposed for it (`fixes_get_eq_nil`).

`fixes_eq_nil_iff` says which names these are, whatever the affixes are and however they overlap in the
name: the prefix comes off first, and a suffix that it cuts into stays.
-/

namespace Nomenclator

namespace Word

theorem breakWords_eq_nil_iff {t : Text} :
    breakWords t = [] ↔ ∀ c ∈ t, CharClass.of c = .separator := by
  rw [← not_iff_not]
  simp [breakWords_ne_nil_iff, isWordChar]

/-- A text has no words without the suffix if it has none at all, or none but those of the suffix. -/
theorem breakWords_dropSuffix?_eq_nil_iff {s t : Text} :
    breakWords ((Text.dropSuffix? s t).getD t) = [] ↔
      breakWords t = [] ∨ ∃ m, breakWords m = [] ∧ t = m ++ s := by
  constructor
  · intro h
    cases hdrop : Text.dropSuffix? s t with
    | none => exact Or.inl (by simpa [hdrop] using h)
    | some m => exact Or.inr ⟨m, by simpa [hdrop] using h, Text.dropSuffix?_eq_some_iff.1 hdrop⟩
  · rintro (h | ⟨m, hm, rfl⟩)
    · rw [breakWords_eq_nil_iff] at h ⊢
      exact fun c hc => h c (Style.mem_of_mem_dropSuffix? hc)
    · simpa using hm

end Word

namespace Style

variable {style : Style} {name rest : Text}

theorem fixes_eq_nil_iff_core : style.fixes name = [] ↔ Word.breakWords (style.core name) = [] := by
  rw [← List.head?_eq_none_iff, Option.eq_none_iff_forall_ne_some]
  constructor
  · intro h
    by_contra hwords
    exact h _ (head?_fixes_eq_some_iff.2 ⟨hwords, rfl⟩)
  · intro h f hf
    exact (head?_fixes_eq_some_iff.1 hf).1 h

/-- Of a name with the prefix, the core is what stands behind that, less the suffix. -/
theorem core_of_starts (h : Reserved.unescape name = style.requiredPrefix ++ rest) :
    style.core name = (Text.dropSuffix? style.requiredSuffix rest).getD rest := by
  simp [core, h]

/-- Of a name without the prefix, the core is the name less the suffix. -/
theorem core_of_not_starts (h : ¬ style.requiredPrefix <+: Reserved.unescape name) :
    style.core name = (Text.dropSuffix? style.requiredSuffix (Reserved.unescape name)).getD
      (Reserved.unescape name) := by
  rw [core, Text.getD_dropPrefix?, if_neg h]

/-- A name has no fixes exactly if, without its verbatim mark, it has no words, or no words but those of
the affixes: it is the prefix, the suffix, or the one behind the other, with nothing but separators
beside or between them. A suffix counts alone only if the name does not start with the prefix. -/
theorem fixes_eq_nil_iff (style : Style) (name : Text) :
    style.fixes name = [] ↔
      Word.breakWords (Reserved.unescape name) = [] ∨
        ∃ m, Word.breakWords m = [] ∧
          (Reserved.unescape name = style.requiredPrefix ++ m ∨
            Reserved.unescape name = style.requiredPrefix ++ m ++ style.requiredSuffix ∨
            Reserved.unescape name = m ++ style.requiredSuffix ∧
              ¬ style.requiredPrefix <+: Reserved.unescape name) := by
  rw [fixes_eq_nil_iff_core]
  by_cases hprefix : style.requiredPrefix <+: Reserved.unescape name
  · obtain ⟨rest, hbare⟩ := hprefix
    rw [core_of_starts hbare.symm, Word.breakWords_dropSuffix?_eq_nil_iff, ← hbare]
    constructor
    · rintro (hrest | ⟨m, hm, rfl⟩)
      · exact Or.inr ⟨rest, hrest, Or.inl rfl⟩
      · exact Or.inr ⟨m, hm, Or.inr (Or.inl (List.append_assoc _ _ _).symm)⟩
    · rintro (hwordless | ⟨m, hm, hback | hboth | ⟨-, hnot⟩⟩)
      · rw [Word.breakWords_eq_nil_iff] at hwordless ⊢
        exact Or.inl fun c hc => hwordless c (List.mem_append_right _ hc)
      · rw [List.append_cancel_left hback]
        exact Or.inl hm
      · rw [List.append_assoc] at hboth
        exact Or.inr ⟨m, hm, List.append_cancel_left hboth⟩
      · exact absurd (List.prefix_append _ rest) hnot
  · rw [core_of_not_starts hprefix, Word.breakWords_dropSuffix?_eq_nil_iff]
    constructor
    · rintro (hwordless | ⟨m, hm, hbare⟩)
      · exact Or.inl hwordless
      · exact Or.inr ⟨m, hm, Or.inr (Or.inr ⟨hbare, hprefix⟩)⟩
    · rintro (hwordless | ⟨m, hm, hback | hboth | ⟨hbare, -⟩⟩)
      · exact Or.inl hwordless
      · exact absurd ⟨m, hback.symm⟩ hprefix
      · rw [List.append_assoc] at hboth
        exact absurd ⟨_, hboth.symm⟩ hprefix
      · exact Or.inr ⟨m, hm, hbare⟩

/-- The name `Get` of a method has a word and breaks the built-in rule, which wants `Get` in front of
another word, but there is no fix for it. -/
theorem fixes_get_eq_nil :
    Word.breakWords (Reserved.unescape "Get".toList) = [.ofText "Get".toList] ∧
      (builtinStyle .method).fixes "Get".toList = [] ∧
      (RuleSet.builtin.checkName { kind := .method } "Get".toList).map Violation.fixes =
        some [] := by
  exact ⟨by decide +kernel, by decide +kernel, by decide +kernel⟩

end Style

end Nomenclator
