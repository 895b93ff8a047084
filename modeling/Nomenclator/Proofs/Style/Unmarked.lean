import Nomenclator.Proofs.Text.Splitting
import Nomenclator.Proofs.Unicode.CaseMapping
import Nomenclator.Proofs.Word.Plural

/-!
# Names without the verbatim mark

The words of a name hold no separators, so none of them starts with the verbatim mark, and neither
casing nor the plural puts one in front: no other character has a case mapping that starts with it.
So a rendered name starts with the mark only if the prefix of the style does
(`head?_render_ne_of_isUnmarked`). This holds of all names, not of ASCII names only.
-/

namespace Nomenclator

/-- The text has a first character, and that is not the verbatim mark. -/
def Text.IsUnmarked (t : Text) : Prop := ∃ c ∈ t.head?, c ≠ Reserved.verbatimMark

namespace Text

variable {s t : Text}

theorem isUnmarked_cons {c : Char} : IsUnmarked (c :: t) ↔ c ≠ Reserved.verbatimMark := by
  simp [IsUnmarked]

theorem IsUnmarked.exists_cons (h : t.IsUnmarked) :
    ∃ c r, t = c :: r ∧ c ≠ Reserved.verbatimMark := by
  obtain ⟨c, hc, hne⟩ := h
  obtain ⟨r, rfl⟩ := List.head?_eq_some_iff.1 hc
  exact ⟨c, r, rfl, hne⟩

theorem IsUnmarked.append (h : t.IsUnmarked) (s : Text) : (t ++ s).IsUnmarked := by
  obtain ⟨c, r, rfl, hc⟩ := h.exists_cons
  exact isUnmarked_cons.2 hc

theorem IsUnmarked.head?_ne (h : t.IsUnmarked) : t.head? ≠ some Reserved.verbatimMark := by
  obtain ⟨c, hc, hne⟩ := h
  intro hmark
  exact hne (Option.some.inj ((Option.mem_def.1 hc).symm.trans hmark))

/-- A text that may be empty, with an unmarked text behind it. -/
theorem IsUnmarked.append_left (hs : s.head? ≠ some Reserved.verbatimMark) (ht : t.IsUnmarked) :
    (s ++ t).IsUnmarked := by
  cases s with
  | nil => exact ht
  | cons c s => exact isUnmarked_cons.2 fun hc => hs (congrArg some hc)

end Text

/-! ## Casing -/

section Casing

variable {t : Text}

theorem isUnmarked_uppercase (h : t.IsUnmarked) : (Unicode.uppercase t).IsUnmarked := by
  obtain ⟨c, r, rfl, hc⟩ := h.exists_cons
  exact Text.IsUnmarked.append (Unicode.exists_head_upper hc) _

theorem isUnmarked_lowercase (h : t.IsUnmarked) : (Unicode.lowercase t).IsUnmarked := by
  obtain ⟨c, r, rfl, hc⟩ := h.exists_cons
  unfold Unicode.lowercase Unicode.lowercaseAfter
  apply Text.IsUnmarked.append
  split
  · unfold Unicode.lowerSigma
    split
    · exact Text.isUnmarked_cons.2 (by decide)
    · exact Text.isUnmarked_cons.2 (by decide)
  · exact Unicode.exists_head_lower hc

theorem isUnmarked_capitalize (h : t.IsUnmarked) : (capitalize t).IsUnmarked := by
  obtain ⟨c, r, rfl, hc⟩ := h.exists_cons
  exact Text.IsUnmarked.append (Unicode.exists_head_upper hc) r

theorem isUnmarked_decapitalize (h : t.IsUnmarked) : (decapitalize t).IsUnmarked := by
  obtain ⟨c, r, rfl, hc⟩ := h.exists_cons
  exact Text.IsUnmarked.append (Unicode.exists_head_lower hc) r

theorem isUnmarked_sentenceCase (h : t.IsUnmarked) : (sentenceCase t).IsUnmarked := by
  obtain ⟨c, r, rfl, hc⟩ := h.exists_cons
  exact Text.IsUnmarked.append (Unicode.exists_head_upper hc) _

theorem Capitalization.isUnmarked_caseFirst (scheme : Capitalization) {w : Word}
    (h : w.text.IsUnmarked) : (scheme.caseFirst w).IsUnmarked := by
  cases scheme with
  | pascalCase => exact isUnmarked_capitalize h
  | camelCase =>
    simp only [caseFirst]
    split
    · exact isUnmarked_lowercase h
    · exact isUnmarked_decapitalize h
  | firstWordUpper => exact isUnmarked_sentenceCase h
  | allUpper => exact isUnmarked_uppercase h
  | allLower => exact isUnmarked_lowercase h

end Casing

/-! ## Words -/

namespace Word

theorem isUnmarked_of_mem_breakWords {t : Text} {w : Word} (h : w ∈ breakWords t) :
    w.text.IsUnmarked := by
  have hword := (isWord_of_mem_breakWords h).1
  obtain ⟨c, r, htext⟩ := List.exists_cons_of_ne_nil hword.ne_nil
  have hc : CharClass.of c ≠ .separator := hword.class_ne_separator (by simp [htext])
  rw [htext]
  refine Text.isUnmarked_cons.2 ?_
  rintro rfl
  exact hc (by decide)

/-- The plural of a word starts as the word does, or else with a letter. -/
theorem isUnmarked_pluralize {t : Text} (h : t.IsUnmarked) : (pluralize t).IsUnmarked := by
  obtain ⟨c, r, ht, hc⟩ := h.exists_cons
  unfold pluralize
  rw [if_neg (by simp [ht])]
  simp only
  split
  · rename_i many hmany
    obtain ⟨-, hsmall, hne⟩ := irregularPlural?_eq_some hmany
    obtain ⟨d, rest, hd, -, hclass, -⟩ := exists_matchFirstLetter (t := t) hsmall hne
    rw [hd]
    refine Text.isUnmarked_cons.2 ?_
    rintro rfl
    revert hclass
    decide
  · split
    · refine Text.IsUnmarked.append_left ?_ (Text.isUnmarked_cons.2 (by decide))
      rw [List.head?_dropLast]
      split
      · exact h.head?_ne
      · simp
    · split
      · exact h.append _
      · exact h.append _

end Word

/-! ## Rendered names -/

namespace Style

variable {style : Style} {ws : List Word}

theorem isUnmarked_renderBody (style : Style) (hne : ws ≠ []) (hws : ∀ w ∈ ws, w.text.IsUnmarked) :
    (style.renderBody ws).IsUnmarked := by
  obtain ⟨w, ws, rfl⟩ := List.exists_cons_of_ne_nil hne
  have hfirst := style.capitalization.isUnmarked_caseFirst (hws w List.mem_cons_self)
  rw [renderBody, Capitalization.caseWords]
  by_cases hlater : ws.map style.capitalization.caseLater = []
  · rw [hlater]
    exact hfirst
  · rw [Text.joinWith_cons hlater]
    exact hfirst.append _

/-- A name rendered from words that do not start with the verbatim mark starts with it only if the
prefix does. -/
theorem head?_render_ne_of_isUnmarked
    (hverbatim : style.requiredPrefix.head? ≠ some Reserved.verbatimMark) (hne : ws ≠ [])
    (hws : ∀ w ∈ ws, w.text.IsUnmarked) :
    (style.render ws).head? ≠ some Reserved.verbatimMark := by
  have hbody := style.isUnmarked_renderBody hne hws
  have hname : (style.render ws).IsUnmarked :=
    (Text.IsUnmarked.append_left hverbatim hbody).append style.requiredSuffix
  exact hname.head?_ne

end Style

end Nomenclator
