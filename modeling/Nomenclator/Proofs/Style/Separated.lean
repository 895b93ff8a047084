import Nomenclator.Proofs.Style.Agreement

/-!
# Names between separators

A style with a separator has two ways to tell words. The check cuts a name at the separator and takes
each piece as one word, whatever is in it; fixing breaks the name into words and puts the separator
between all of them. So in Pascal case with the separator `_` the check accepts `FooBar`, of which fixing
makes `Foo_Bar` (`Style.head?_fixes_fooBar`). Of the names that the check accepts, fixing leaves alone
exactly those whose pieces are single words (`Style.head?_fixes_eq_self_iff`).
-/

namespace Nomenclator.Style

variable {style : Style} {name m : Text}

/-- A name whose pieces are single words is broken into its pieces. -/
theorem breakWords_eq_delimitedWords (hne : style.wordSeparator ≠ [])
    (hsep : ∀ c ∈ style.wordSeparator, CharClass.of c = .separator)
    (h : ∀ w ∈ style.delimitedWords m, Word.breakWords w.text = [w]) :
    Word.breakWords m = style.delimitedWords m := by
  have hwords : ∀ piece ∈ Text.splitOnText style.wordSeparator m, Word.IsWord piece := by
    intro piece hpiece
    have hmem : Word.ofText piece ∈ style.delimitedWords m := by
      rw [delimitedWords, if_neg hne]
      exact List.mem_map_of_mem hpiece
    have hself : Word.ofText piece ∈ Word.breakWords piece := by
      rw [show Word.breakWords piece = [Word.ofText piece] from h _ hmem]
      exact List.mem_cons_self
    exact (Word.isWord_of_mem_breakWords hself).1
  calc Word.breakWords m
      = Word.breakWords
          (Text.joinWith style.wordSeparator (Text.splitOnText style.wordSeparator m)) := by
        rw [Text.joinWith_splitOnText hne]
    _ = (Text.splitOnText style.wordSeparator m).map .ofText :=
        Word.breakWords_joinWith hne hsep hwords
    _ = style.delimitedWords m := by rw [delimitedWords, if_neg hne]

/-- The pieces of a rendering of the words of an ASCII name are single words. -/
theorem breakWords_of_mem_delimitedWords {ws : List Word} (hne : style.wordSeparator ≠ [])
    (hsep : ∀ c ∈ style.wordSeparator, CharClass.of c = .separator) (hnil : ws ≠ [])
    (hws : ∀ w ∈ ws, w.IsOrdinary) :
    ∀ w ∈ style.delimitedWords (style.renderBody ws), Word.breakWords w.text = [w] := by
  intro w hw
  rw [delimitedWords_renderBody hne hsep hnil fun v hv => (hws v hv).isRegular] at hw
  obtain ⟨piece, hpiece, rfl⟩ := List.mem_map.1 hw
  exact Word.breakWords_of_isWord (Capitalization.isWord_of_mem_caseWords hws hpiece)

/-- Of the ASCII names that a style with a separator accepts, the first fix is the name itself, without
its verbatim mark, exactly if every piece of the name between the separators is a single word. -/
theorem head?_fixes_eq_self_iff (hne : style.wordSeparator ≠ [])
    (hsep : ∀ c ∈ style.wordSeparator,
      Unicode.isAlphabetic c = false ∧ Unicode.isNumeric c = false)
    (hname : name.IsAscii) (hcompliant : style.isCompliant name = true) :
    (style.fixes name).head? = some (Reserved.unescape name) ↔
      ∀ m ∈ style.middle? (Reserved.unescape name),
        ∀ w ∈ style.delimitedWords m, Word.breakWords w.text = [w] := by
  have hclass : ∀ c ∈ style.wordSeparator, CharClass.of c = .separator :=
    fun c hc => CharClass.of_eq_separator_iff.2 (hsep c hc)
  obtain ⟨m, hmiddle, hm, -, hself⟩ := isCompliant_iff.1 hcompliant
  have hcore : style.core name = m := core_of_middle? hmiddle
  have hparts : Reserved.unescape name = style.requiredPrefix ++ m ++ style.requiredSuffix :=
    middle?_eq_some_iff.1 hmiddle
  rw [head?_fixes_eq_some_iff, hcore]
  constructor
  · rintro ⟨hwords, hrender⟩ m' hm'
    obtain rfl : m = m' := Option.some.inj (hmiddle.symm.trans hm')
    have hbody : style.renderBody (Word.breakWords m) = m := by
      rw [hparts, render] at hrender
      exact (List.append_cancel_left (List.append_cancel_right hrender)).symm
    have hordinary : ∀ w ∈ Word.breakWords m, w.IsOrdinary := by
      refine fun w hw => Word.isOrdinary_of_mem_breakWords (fun c hc => hname c ?_) hw
      exact mem_of_mem_core (hcore ▸ hc)
    have hsingle := breakWords_of_mem_delimitedWords hne hclass hwords hordinary
    rwa [hbody] at hsingle
  · intro hsingle
    have hwords := breakWords_eq_delimitedWords hne hclass (hsingle m hmiddle)
    have hbody : style.renderBody (Word.breakWords m) = m := by rw [hwords, hself]
    refine ⟨fun hnil => hm ?_, by rw [hparts, render, hbody]⟩
    rw [← hbody, hnil]
    rfl

/-- Pascal case with `_` between words. -/
def underscoredStyle : Style := { pascalStyle with wordSeparator := "_".toList }

theorem separator_underscoredStyle : ∀ c ∈ underscoredStyle.wordSeparator,
    Unicode.isAlphabetic c = false ∧ Unicode.isNumeric c = false := by
  intro c hc
  obtain rfl : c = '_' := by simpa [underscoredStyle] using hc
  decide

/-- The name `@Foo_Bar` is left alone but for its mark. -/
theorem head?_fixes_eq_self_iff_fooBar :
    underscoredStyle.wordSeparator ≠ [] ∧
      (∀ c ∈ underscoredStyle.wordSeparator,
        Unicode.isAlphabetic c = false ∧ Unicode.isNumeric c = false) ∧
      Text.IsAscii "@Foo_Bar".toList ∧ underscoredStyle.isCompliant "@Foo_Bar".toList = true ∧
      underscoredStyle.fixes "@Foo_Bar".toList = ["Foo_Bar".toList] ∧
      ((underscoredStyle.fixes "@Foo_Bar".toList).head? =
          some (Reserved.unescape "@Foo_Bar".toList) ↔
        ∀ m ∈ underscoredStyle.middle? (Reserved.unescape "@Foo_Bar".toList),
          ∀ w ∈ underscoredStyle.delimitedWords m, Word.breakWords w.text = [w]) := by
  have hne : underscoredStyle.wordSeparator ≠ [] := by decide
  have hascii : Text.IsAscii "@Foo_Bar".toList := by simp [Text.IsAscii]
  have hcompliant : underscoredStyle.isCompliant "@Foo_Bar".toList = true := by decide +kernel
  have hfixes : underscoredStyle.fixes "@Foo_Bar".toList = ["Foo_Bar".toList] := by decide +kernel
  exact ⟨hne, separator_underscoredStyle, hascii, hcompliant, hfixes,
    head?_fixes_eq_self_iff hne separator_underscoredStyle hascii hcompliant⟩

/-- The name `FooBar` is accepted too, as one piece, and fixing makes another name of it. -/
theorem head?_fixes_fooBar :
    underscoredStyle.wordSeparator ≠ [] ∧
      (∀ c ∈ underscoredStyle.wordSeparator,
        Unicode.isAlphabetic c = false ∧ Unicode.isNumeric c = false) ∧
      underscoredStyle.requiredPrefix.head? ≠ some Reserved.verbatimMark ∧
      Text.IsAscii "FooBar".toList ∧ underscoredStyle.isCompliant "FooBar".toList = true ∧
      (underscoredStyle.fixes "FooBar".toList).head? = some "Foo_Bar".toList ∧
      (underscoredStyle.fixes "FooBar".toList).head? ≠
        some (Reserved.unescape "FooBar".toList) := by
  have hfixes : underscoredStyle.fixes "FooBar".toList = ["Foo_Bar".toList] := by decide +kernel
  exact ⟨by decide, separator_underscoredStyle, by decide, by simp [Text.IsAscii], by decide +kernel,
    by rw [hfixes]; rfl, by rw [hfixes]; decide⟩

end Nomenclator.Style
