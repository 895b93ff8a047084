import Nomenclator.Proofs.Style.Rendering
import Nomenclator.Rules.Checking

/-!
# Rendered names comply

A rendering of regular words complies with the style that rendered it, unless the style tells words
apart by capitals only and a small letter came to stand behind a numeral (`isCompliant_render_iff`).
The words of an ASCII name never bring that about, so every fix of such a name complies, and fixing
it again gives it back.

The name must not start with the verbatim mark, which is no part of a name, and the separator must
not hold letters or numerals, or it could not be told from the words.
-/

namespace Nomenclator

namespace Reserved

theorem unescape_eq_self {t : Text} (h : t.head? ≠ some verbatimMark) : unescape t = t := by
  cases t with
  | nil => rfl
  | cons c t =>
    have hc : c ≠ verbatimMark := by simpa using h
    simp [unescape, hc]

end Reserved

namespace Style

variable {style : Style} {ws : List Word}

/-! ## The parts of a rendered name -/

/-- The verbatim mark in front of a reserved word does not matter to the check. -/
theorem isCompliant_escape {name : Text} (h : name.head? ≠ some Reserved.verbatimMark) :
    style.isCompliant (Reserved.escape name) = style.isCompliant name := by
  simp only [isCompliant, Reserved.unescape_escape h, Reserved.unescape_eq_self h]

theorem renderBody_eq_cons (style : Style) (hne : ws ≠ []) (hws : ∀ w ∈ ws, w.IsRegular) :
    ∃ c t, style.renderBody ws = c :: t ∧ CharClass.of c ≠ .separator := by
  obtain ⟨p, ps, hps⟩ := List.exists_cons_of_ne_nil (style.capitalization.caseWords_ne_nil hne)
  have hmem : p ∈ style.capitalization.caseWords ws := by
    rw [hps]
    exact List.mem_cons_self
  obtain ⟨hp, -, hlacks⟩ := Capitalization.piece_of_mem_caseWords hws hmem
  obtain ⟨c, t, rfl⟩ := List.exists_cons_of_ne_nil hp
  have hc := (Text.lacks_cons.1 hlacks).1
  cases ps with
  | nil => exact ⟨c, t, by rw [renderBody, hps]; rfl, hc⟩
  | cons q ps =>
    refine ⟨c, t ++ (style.wordSeparator ++ Text.joinWith style.wordSeparator (q :: ps)), ?_, hc⟩
    rw [renderBody, hps, Text.joinWith_cons (by simp), List.cons_append]

/-- A rendered name does not start with the verbatim mark, unless the style puts it there. -/
theorem head?_render_ne (hverbatim : style.requiredPrefix.head? ≠ some Reserved.verbatimMark)
    (hne : ws ≠ []) (hws : ∀ w ∈ ws, w.IsRegular) :
    (style.render ws).head? ≠ some Reserved.verbatimMark := by
  obtain ⟨c, t, hbody, hc⟩ := renderBody_eq_cons style hne hws
  unfold render
  cases hp : style.requiredPrefix with
  | nil =>
    rw [hbody]
    simp only [List.nil_append, List.cons_append, List.head?_cons, ne_eq, Option.some.injEq]
    rintro rfl
    exact hc (by decide)
  | cons a p => simpa [hp] using hverbatim

theorem middle?_eq_some_iff {t m : Text} :
    style.middle? t = some m ↔ t = style.requiredPrefix ++ m ++ style.requiredSuffix := by
  simp [middle?, Option.bind_eq_some_iff, Text.dropPrefix?_eq_some_iff,
    Text.dropSuffix?_eq_some_iff]

/-- The affixes of a rendered name come off. -/
theorem middle?_render (style : Style) (ws : List Word) :
    style.middle? (style.render ws) = some (style.renderBody ws) :=
  middle?_eq_some_iff.2 rfl

/-- Of a name that has both affixes, the check and the fixes take the same part. -/
theorem core_of_middle? {name m : Text} (h : style.middle? (Reserved.unescape name) = some m) :
    style.core name = m := by
  obtain ⟨rest, hprefix, hsuffix⟩ := Option.bind_eq_some_iff.1 h
  simp only [core, hprefix, Option.getD_some, hsuffix]

theorem core_render (h : (style.render ws).head? ≠ some Reserved.verbatimMark) :
    style.core (style.render ws) = style.renderBody ws := by
  refine core_of_middle? ?_
  rw [Reserved.unescape_eq_self h]
  exact middle?_render style ws

/-! ## The words that the check sees -/

/-- A separator delimits the cased words again. -/
theorem delimitedWords_renderBody (hne : style.wordSeparator ≠ [])
    (hsep : ∀ c ∈ style.wordSeparator, CharClass.of c = .separator) (hnil : ws ≠ [])
    (hws : ∀ w ∈ ws, w.IsRegular) :
    style.delimitedWords (style.renderBody ws) =
      (style.capitalization.caseWords ws).map Word.ofText := by
  obtain ⟨a, sep, ha⟩ := List.exists_cons_of_ne_nil hne
  have hpieces : ∀ p ∈ style.capitalization.caseWords ws, a ∉ p := by
    intro p hp hmem
    refine (Capitalization.piece_of_mem_caseWords hws hp).2.2 a hmem (hsep a ?_)
    rw [ha]
    exact List.mem_cons_self
  rw [delimitedWords, if_neg hne, renderBody, ha,
    Text.splitOnText_joinWith (style.capitalization.caseWords_ne_nil hnil) hpieces]

/-- Cased words are rendered as they are. -/
theorem renderBody_ofText_caseWords (hws : ∀ w ∈ ws, w.IsRegular) :
    style.renderBody ((style.capitalization.caseWords ws).map .ofText) = style.renderBody ws := by
  have hascii : ∀ p ∈ style.capitalization.caseWords ws, p.IsAscii :=
    fun p hp => (Capitalization.piece_of_mem_caseWords hws hp).2.1
  rw [renderBody, Capitalization.caseWords_ofText hascii
    (style.capitalization.cased_caseWords hws), renderBody]

theorem isAscii_lacks_renderBody (hsep : style.wordSeparator = []) (hws : ∀ w ∈ ws, w.IsRegular) :
    (style.renderBody ws).IsAscii ∧ (style.renderBody ws).Lacks .separator := by
  rw [renderBody_of_separator_nil hsep]
  refine ⟨fun c hc => ?_, Text.lacks_flatten.2 fun p hp =>
    (Capitalization.piece_of_mem_caseWords hws hp).2.2⟩
  obtain ⟨p, hp, hcp⟩ := List.mem_flatten.1 hc
  exact (Capitalization.piece_of_mem_caseWords hws hp).2.1 c hcp

/-- Without a separator, words of letters only or numerals only never put a small letter behind a
numeral: a word behind another starts with a capital. -/
theorem attached_renderBody (hsep : style.wordSeparator = [])
    (hmarks : style.capitalization.marksWords = true)
    (hws : ∀ w ∈ ws, w.text.IsAscii ∧ w.text.Uniform) : (style.renderBody ws).Attached := by
  have hascii : ∀ w ∈ ws, w.text.IsAscii := fun w hw => (hws w hw).1
  rw [renderBody_of_separator_nil hsep]
  refine Text.attached_flatten (fun p hp => ?_) fun p hp => ?_
  · obtain ⟨w, hw, hcase⟩ := Capitalization.exists_of_mem_caseWords hascii hp
    exact ((Text.uniform_iff hcase (hascii w hw)).2 (hws w hw).2).attached
  · cases ws with
    | nil => cases hp
    | cons v ws =>
      obtain ⟨w, hw, rfl⟩ := List.mem_map.1 hp
      have hlater := style.capitalization.laterCased_caseLater
        (hascii w (List.mem_cons_of_mem v hw))
      cases hscheme : style.capitalization with
      | pascalCase | camelCase => rwa [hscheme] at hlater
      | firstWordUpper | allUpper | allLower => rw [hscheme] at hmarks; cases hmarks

/-! ## Compliance -/

/-- The check of a rendered name compares the body with what its delimited words render to. -/
theorem isCompliant_render (hhead : (style.render ws).head? ≠ some Reserved.verbatimMark)
    (hbody : style.renderBody ws ≠ [])
    (hwords : ∀ w ∈ style.delimitedWords (style.renderBody ws), w.text ≠ []) :
    style.isCompliant (style.render ws) = true ↔
      style.renderBody (style.delimitedWords (style.renderBody ws)) = style.renderBody ws := by
  rw [isCompliant, Reserved.unescape_eq_self hhead, middle?_render]
  simpa [hbody] using fun _ => hwords

/-- A rendering of regular words complies with the style, unless the style tells words apart by
capitals only and a small letter stands right behind a numeral. -/
theorem isCompliant_render_iff
    (hverbatim : style.requiredPrefix.head? ≠ some Reserved.verbatimMark)
    (hsep : ∀ c ∈ style.wordSeparator, CharClass.of c = .separator) (hne : ws ≠ [])
    (hws : ∀ w ∈ ws, w.IsRegular) :
    style.isCompliant (style.render ws) = true ↔
      (style.wordSeparator = [] → style.capitalization.marksWords = true →
        (style.renderBody ws).Attached) := by
  have hhead := head?_render_ne hverbatim hne hws
  have hbody : style.renderBody ws ≠ [] := by
    obtain ⟨c, t, h, -⟩ := renderBody_eq_cons style hne hws
    simp [h]
  by_cases hnil : style.wordSeparator = []
  · have hwords : style.delimitedWords (style.renderBody ws) =
        Word.breakWords (style.renderBody ws) := by rw [delimitedWords, if_pos hnil]
    obtain ⟨hascii, hlacks⟩ := isAscii_lacks_renderBody hnil hws
    rw [isCompliant_render hhead hbody, hwords]
    · constructor
      · -- The words found in the body are letters only or numerals only.
        intro h _ hmarks
        rw [← h]
        refine attached_renderBody hnil hmarks fun w hw => ?_
        have hword := Word.isOrdinary_of_mem_breakWords hascii hw
        exact ⟨hword.isAscii, hword.isWord.uniform⟩
      · intro h
        exact renderBody_breakWords_eq_self hnil hascii hlacks
          (fits_renderBody hnil hne hws (h hnil))
    · rw [hwords]
      exact fun w hw => (Word.isWord_of_mem_breakWords hw).1.ne_nil
  · have hwords := delimitedWords_renderBody hnil hsep hne hws
    refine iff_of_true ?_ fun h => absurd h hnil
    rw [isCompliant_render hhead hbody, hwords, renderBody_ofText_caseWords hws]
    intro w hw
    rw [hwords] at hw
    obtain ⟨p, hp, rfl⟩ := List.mem_map.1 hw
    exact (Capitalization.piece_of_mem_caseWords hws hp).1

end Style

end Nomenclator
