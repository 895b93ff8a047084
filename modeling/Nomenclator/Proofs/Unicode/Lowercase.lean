import Nomenclator.Proofs.Unicode.Ascii
import Nomenclator.Proofs.Unicode.CaseMapping

/-!
# Lowering texts

Lowering a text does away with its ASCII case, whatever other characters are in the text
(`lowercase_lowerAscii`): an ASCII letter has one small form, and it is cased in both forms, so a capital
sigma beside it becomes the same sigma.

Other characters have small forms among the ASCII letters, too; the sign for kelvin becomes `k`. The
letter `y` is the small form of nothing but itself and its capital (`eq_or_eq_of_mem_lower`), so a text
that ends with `y` when it is lowered ends with one of them (`exists_eq_concat_of_lowercase`).
-/

namespace Nomenclator.Unicode

/-! ## ASCII case -/

theorem lower_toLower (c : Char) : lower c.toLower = lower c := by
  rcases Nat.lt_or_ge c.toNat 128 with hc | hc
  · rw [lower_ascii hc, lower_ascii (toLower_lt hc), toLower_toLower hc]
  · rw [toLower_eq_self_of_ge hc]

theorem toLower_eq_sigma_iff {c : Char} : c.toLower = 'Σ' ↔ c = 'Σ' := by
  rcases Nat.lt_or_ge c.toNat 128 with hc | hc
  · have hsmall := toLower_lt hc
    constructor
    · intro h
      rw [h] at hsmall
      exact absurd hsmall (by decide)
    · rintro rfl
      exact absurd hc (by decide)
  · rw [toLower_eq_self_of_ge hc]

theorem isCaseIgnorable_toLower (c : Char) :
    inRanges caseIgnorableRanges c.toLower.toNat = inRanges caseIgnorableRanges c.toNat := by
  rcases Nat.lt_or_ge c.toNat 128 with hc | hc
  · exact forall_ascii (P := fun c => inRanges caseIgnorableRanges c.toLower.toNat =
      inRanges caseIgnorableRanges c.toNat) (by decide) hc
  · rw [toLower_eq_self_of_ge hc]

theorem isCased_toLower (c : Char) :
    inRanges casedRanges c.toLower.toNat = inRanges casedRanges c.toNat := by
  rcases Nat.lt_or_ge c.toNat 128 with hc | hc
  · exact forall_ascii (P := fun c => inRanges casedRanges c.toLower.toNat =
      inRanges casedRanges c.toNat) (by decide) hc
  · rw [toLower_eq_self_of_ge hc]

theorem casedComesNext_map_toLower (t : Text) :
    casedComesNext (t.map Char.toLower) = casedComesNext t := by
  have hignored : (fun c => inRanges caseIgnorableRanges c.toNat) ∘ Char.toLower =
      fun c => inRanges caseIgnorableRanges c.toNat := funext isCaseIgnorable_toLower
  unfold casedComesNext
  rw [List.dropWhile_map, hignored]
  cases t.dropWhile fun c => inRanges caseIgnorableRanges c.toNat with
  | nil => rfl
  | cons c rest => exact isCased_toLower c

/-- The induction is on the text; what has been passed may be in any ASCII case. -/
theorem lowercaseAfter_map_toLower (before t : Text) :
    lowercaseAfter (before.map Char.toLower) (t.map Char.toLower) = lowercaseAfter before t := by
  induction t generalizing before with
  | nil => rfl
  | cons c t ih =>
    have htail := ih (c :: before)
    rw [List.map_cons] at htail
    rw [List.map_cons, lowercaseAfter, lowercaseAfter, htail]
    by_cases hsigma : c = 'Σ'
    · rw [if_pos (toLower_eq_sigma_iff.2 hsigma), if_pos hsigma, lowerSigma, lowerSigma,
        casedComesNext_map_toLower, casedComesNext_map_toLower]
    · rw [if_neg (mt toLower_eq_sigma_iff.1 hsigma), if_neg hsigma, lower_toLower]

/-- Texts that differ in ASCII case only are the same text when they are lowered. -/
theorem lowercase_lowerAscii (t : Text) : lowercase (Text.lowerAscii t) = lowercase t :=
  lowercaseAfter_map_toLower [] t

/-! ## Texts that end with `y` when they are lowered -/

theorem lower_ne_nil (c : Char) : lower c ≠ [] := by
  by_cases hc : c = '@'
  · subst hc
    decide
  · obtain ⟨d, hd, -⟩ := exists_head_lower hc
    exact List.ne_nil_of_mem (List.mem_of_mem_head? hd)

/-- Only `y` and its capital have a small form with a `y` in it. All runs miss the letter but those that
shift by as much as the ASCII capitals are shifted. -/
theorem eq_or_eq_of_mem_lower {c : Char} (h : 'y' ∈ lower c) : c = 'y' ∨ c = 'Y' := by
  have hcode : ∀ n, Char.ofNat n = 'y' → n = 'y'.toNat :=
    fun n hn => Decidable.byContradiction fun hne => ofNat_ne (by decide) hne hn
  unfold lower mapCase at h
  split at h
  · rename_i n hshift
    obtain rfl : n = 'y'.toNat := hcode n (List.mem_singleton.1 h).symm
    obtain ⟨run, hrun, hfirst, hlast, hn⟩ := exists_run_of_shift?_eq_some hshift
    have hruns : ∀ run ∈ lowerRuns, run.Misses 'y'.toNat ∨ run.offset = 32 := by decide +kernel
    have hy : 'y'.toNat = 121 := rfl
    rcases hruns run hrun with hmisses | hoffset
    · exact absurd hn (hmisses.ne_of_shifted (by decide) hfirst hlast)
    · rw [hy, hoffset] at hn
      have hcapital : c.toNat = 'Y'.toNat := by
        have hY : 'Y'.toNat = 89 := rfl
        omega
      exact Or.inr (Char.toNat_inj.1 hcapital)
  · split at h
    · rename_i ns hlookup
      obtain ⟨n, hn, hofNat⟩ := List.mem_map.1 h
      have hexpansions : ∀ e ∈ lowerExpansions, 'y'.toNat ∉ e.2 := by decide
      rw [hcode n hofNat] at hn
      exact absurd hn (hexpansions _ (mem_of_lookup hlookup))
    · exact Or.inl (List.mem_singleton.1 h).symm

/-- The end of a text is lowered last, as an end of what stands before it. -/
theorem exists_lowercaseAfter_append (before s t : Text) :
    ∃ front, lowercaseAfter before (s ++ t) = front ++ lowercaseAfter (s.reverse ++ before) t := by
  induction s generalizing before with
  | nil => exact ⟨[], rfl⟩
  | cons c s ih =>
    obtain ⟨front, hfront⟩ := ih (c :: before)
    rw [List.cons_append, lowercaseAfter, hfront, List.reverse_cons, List.append_assoc,
      List.singleton_append, ← List.append_assoc]
    exact ⟨_, rfl⟩

theorem exists_eq_concat_of_lowercase {t small : Text} (h : lowercase t = small ++ ['y']) :
    ∃ front y, t = front ++ [y] ∧ (y = 'y' ∨ y = 'Y') := by
  rcases List.eq_nil_or_concat t with rfl | ⟨front, c, rfl⟩
  · exact absurd h (by simp [lowercase, lowercaseAfter])
  · rw [List.concat_eq_append] at h ⊢
    refine ⟨front, c, rfl, ?_⟩
    obtain ⟨lead, hlead⟩ := exists_lowercaseAfter_append [] front [c]
    have hlast := congrArg List.getLast? (hlead.symm.trans h)
    rw [lowercaseAfter, lowercaseAfter, List.append_nil, List.getLast?_concat] at hlast
    by_cases hsigma : c = 'Σ'
    · rw [if_pos hsigma, List.getLast?_concat, lowerSigma] at hlast
      split at hlast
      · exact absurd hlast (by decide)
      · exact absurd hlast (by decide)
    · rw [if_neg hsigma, List.getLast?_append, List.getLast?_eq_some_getLast (lower_ne_nil c),
        Option.some_or, Option.some.injEq] at hlast
      exact eq_or_eq_of_mem_lower (hlast ▸ List.getLast_mem (lower_ne_nil c))

end Nomenclator.Unicode
