import Nomenclator.Proofs.Style.Fixing
import Nomenclator.Proofs.Style.Unmarked

/-!
# The check and the fixes agree

The check asks for both affixes of a style, while fixing takes off those that are there. A style
without a separator breaks what is left into words in the same way for both. So such a style accepts
a name exactly if fixing the name gives it back first (`Style.isCompliant_iff_head?_fixes`), however
the affixes overlap with each other or with the name. This holds of all names, not of ASCII names
only.

A name that fixing gives back has both affixes, for it is a rendering, and so the check and the fixes
take the same part of it (`Style.core_of_middle?`).
-/

namespace Nomenclator.Style

variable {style : Style} {name : Text}

/-- What the check asks for: both affixes around something, no empty words in it, and all of them cased
as the style asks. -/
theorem isCompliant_iff :
    style.isCompliant name = true ↔
      ∃ m, style.middle? (Reserved.unescape name) = some m ∧ m ≠ [] ∧
        (∀ w ∈ style.delimitedWords m, w.text ≠ []) ∧
        style.renderBody (style.delimitedWords m) = m := by
  unfold isCompliant
  cases style.middle? (Reserved.unescape name) with
  | none => simp
  | some m => simp [and_assoc]

theorem isCompliant_iff_of_separator_nil (hsep : style.wordSeparator = []) :
    style.isCompliant name = true ↔
      ∃ m, style.middle? (Reserved.unescape name) = some m ∧ m ≠ [] ∧
        style.renderBody (Word.breakWords m) = m := by
  rw [isCompliant_iff]
  refine exists_congr fun m => and_congr_right fun _ => and_congr_right fun _ => ?_
  rw [delimitedWords, if_pos hsep]
  exact and_iff_right fun w hw => (Word.isWord_of_mem_breakWords hw).1.ne_nil

theorem renderBody_breakWords_ne_nil {t : Text} (h : Word.breakWords t ≠ []) :
    style.renderBody (Word.breakWords t) ≠ [] := by
  obtain ⟨c, r, hbody, -⟩ := (style.isUnmarked_renderBody h
    fun w hw => Word.isUnmarked_of_mem_breakWords hw).exists_cons
  rw [hbody]
  exact List.cons_ne_nil c r

/-- A style without a separator accepts a name exactly if the first of the fixes of the name is the
name without its verbatim mark. -/
theorem isCompliant_iff_head?_fixes (hsep : style.wordSeparator = []) (name : Text) :
    style.isCompliant name = true ↔
      style.fixes name ≠ [] ∧ (style.fixes name).head? = some (Reserved.unescape name) := by
  rw [isCompliant_iff_of_separator_nil hsep]
  constructor
  · rintro ⟨m, hmiddle, hne, hself⟩
    have hcore : style.core name = m := core_of_middle? hmiddle
    have hwords : Word.breakWords m ≠ [] := by
      intro hnil
      rw [hnil] at hself
      exact hne hself.symm
    have hname : Reserved.unescape name = style.render (Word.breakWords m) := by
      rw [render, hself]
      exact middle?_eq_some_iff.1 hmiddle
    have hhead : (style.fixes name).head? = some (Reserved.unescape name) := by
      rw [head?_fixes_eq_some_iff, hcore]
      exact ⟨hwords, hname⟩
    refine ⟨fun hnil => ?_, hhead⟩
    rw [hnil] at hhead
    cases hhead
  · rintro ⟨-, hhead⟩
    obtain ⟨hwords, hname⟩ := head?_fixes_eq_some_iff.1 hhead
    have hmiddle : style.middle? (Reserved.unescape name) =
        some (style.renderBody (Word.breakWords (style.core name))) := by
      rw [hname]
      exact middle?_render style _
    have hcore := core_of_middle? hmiddle
    refine ⟨_, hmiddle, renderBody_breakWords_ne_nil hwords, ?_⟩
    rw [← hcore]
    exact hcore.symm

/-- The name `s_s` has the prefix `s_` and the suffix `_s`, but not one behind the other, so it is
fixed to another name. -/
theorem isCompliant_iff_head?_fixes_overlap :
    let style : Style :=
      { camelStyle with requiredPrefix := "s_".toList, requiredSuffix := "_s".toList }
    style.wordSeparator = [] ∧ style.isCompliant "s_s".toList = false ∧
      style.fixes "s_s".toList = ["s_s_s".toList] ∧
      (style.isCompliant "s_s".toList = true ↔ style.fixes "s_s".toList ≠ [] ∧
        (style.fixes "s_s".toList).head? = some (Reserved.unescape "s_s".toList)) := by
  intro style
  have hsep : style.wordSeparator = [] := by rfl
  exact ⟨hsep, by decide +kernel, by decide +kernel, isCompliant_iff_head?_fixes hsep "s_s".toList⟩

end Nomenclator.Style
