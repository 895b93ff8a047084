import Nomenclator.Proofs.Rules.RuleSet
import Nomenclator.Proofs.Style.Fixing
import Nomenclator.Proofs.Suggestion.Candidates
import Nomenclator.Proofs.Suggestion.Provenance

/-!
# Suggested names and the check

Suggestions and the check follow the same rules, but they do not always agree. A candidate is
rendered from words of a name in the type, possibly with the last of them in the plural. It complies
with the style that it was made for, except where a style without a separator tells words apart by
capitals and one of the words is the plural of a numeral: the check reads the `s` of `Vector3s` as a
word of its own and asks for a capital (`suggest_isCompliant_iff`,
`suggest_vector3s_not_isCompliant`).
-/

namespace Nomenclator

/-! ## Plurals of numerals in a name -/

namespace Word.IsPluralNumeral

variable {w : Word}

theorem not_attached (h : w.IsPluralNumeral) : ¬ w.text.Attached := by
  obtain ⟨d, hne, hdigits, htext⟩ := h
  intro hattached
  rw [htext] at hattached
  have hlast := List.getLast?_eq_some_getLast hne
  exact (List.isChain_append.1 hattached).2.2 _ hlast 's' rfl
    ⟨hdigits _ (List.getLast_mem hne), by decide⟩

theorem lacks_upper (h : w.IsPluralNumeral) : w.text.Lacks .upper := by
  obtain ⟨d, -, hdigits, htext⟩ := h
  rw [htext]
  refine Text.lacks_append.2 ⟨fun c hc => by simp [hdigits c hc], ?_⟩
  exact Text.lacks_cons.2 ⟨by decide, Text.lacks_nil _⟩

theorem notFirst_lower (h : w.IsPluralNumeral) : w.text.NotFirst .lower := by
  obtain ⟨d, hne, hdigits, htext⟩ := h
  obtain ⟨c, d, rfl⟩ := List.exists_cons_of_ne_nil hne
  rw [htext, List.cons_append, Text.notFirst_cons, hdigits c List.mem_cons_self]
  decide

/-- A scheme that marks words has no letter to mark in the plural of a numeral. -/
theorem mem_caseWords {scheme : Capitalization} (hmarks : scheme.marksWords = true)
    (h : w.IsPluralNumeral) (hascii : w.text.IsAscii) {ws : List Word} (hw : w ∈ ws) :
    w.text ∈ scheme.caseWords ws := by
  have hcapitalize := capitalize_eq_self hascii h.notFirst_lower
  have hlater : scheme.caseLater w = w.text := by
    cases scheme with
    | pascalCase | camelCase => exact hcapitalize
    | firstWordUpper | allUpper | allLower => cases hmarks
  have hfirst : scheme.caseFirst w = w.text := by
    cases scheme with
    | pascalCase => exact hcapitalize
    | camelCase =>
      simp only [Capitalization.caseFirst]
      split
      · exact Unicode.lowercase_eq_self hascii h.lacks_upper
      · exact decapitalize_eq_self hascii h.lacks_upper
    | firstWordUpper | allUpper | allLower => cases hmarks
  rcases scheme.mem_caseWords_or hw with hmem | hmem
  · rwa [hfirst] at hmem
  · rwa [hlater] at hmem

end Word.IsPluralNumeral

namespace Style

variable {style : Style} {ws : List Word}

/-- Exactly the plurals of numerals put a small letter behind a numeral. -/
theorem attached_renderBody_iff (hsep : style.wordSeparator = [])
    (hmarks : style.capitalization.marksWords = true) (hws : ∀ w ∈ ws, w.Inflected) :
    (style.renderBody ws).Attached ↔ ∀ w ∈ ws, ¬ w.IsPluralNumeral := by
  constructor
  · intro hattached w hw hplural
    have hmem := hplural.mem_caseWords hmarks (hws w hw).isRegular.isAscii hw
    obtain ⟨before, behind, hsplit⟩ := List.append_of_mem hmem
    rw [renderBody_of_separator_nil hsep, hsplit, List.flatten_append, List.flatten_cons]
      at hattached
    exact hplural.not_attached hattached.right.left
  · intro hnone
    refine attached_renderBody hsep hmarks fun w hw => ⟨(hws w hw).isRegular.isAscii, ?_⟩
    exact (hws w hw).uniform_or.resolve_right (hnone w hw)

end Style

/-! ## Candidates -/

namespace RuleSet

/-- What holds of the styles of a rule set and of the built-in styles holds of every style that
names a symbol. -/
theorem styleFor_induction {P : Style → Prop} {p : RuleSet} (hlisted : ∀ style ∈ p.styles, P style)
    (hbuiltin : ∀ kind, P (builtinStyle kind)) (symbol : Symbol) : P (p.styleFor symbol) := by
  unfold styleFor
  split
  · rename_i rule hrule
    have hmem := mem_of_mem_resolvedRules (List.mem_of_find?_eq_some hrule)
    exact hlisted rule.style hmem.2
  · exact hbuiltin symbol.kind

/-- The built-in styles put no verbatim mark in front of names and nothing between words. -/
theorem builtinStyle_affixes (kind : SymbolKind) :
    (builtinStyle kind).requiredPrefix.head? ≠ some Reserved.verbatimMark ∧
      ∀ c ∈ (builtinStyle kind).wordSeparator,
        Unicode.isAlphabetic c = false ∧ Unicode.isNumeric c = false := by
  have hsep : (builtinStyle kind).wordSeparator = [] := by cases kind <;> rfl
  refine ⟨?_, by simp [hsep]⟩
  cases kind <;> simp [builtinStyle, camelStyle, getterStyle, pascalStyle, Reserved.verbatimMark]

theorem builtinStyle_mem_styles (kind : SymbolKind) : builtinStyle kind ∈ builtin.styles := by
  cases kind <;> simp [builtin, builtinStyle]

/-- What holds of the style for every kind holds of the styles of the built-in rule set. -/
theorem forall_mem_builtin_styles {P : Style → Prop} (h : ∀ kind, P (builtinStyle kind)) :
    ∀ style ∈ builtin.styles, P style := by
  intro style hstyle
  rcases List.mem_cons.1 hstyle with rfl | hstyle
  · exact h .field
  · rcases List.mem_cons.1 hstyle with rfl | hstyle
    · exact h .method
    · rw [List.mem_singleton.1 hstyle]
      exact h .property

theorem builtin_affixes : ∀ style ∈ builtin.styles,
    style.requiredPrefix.head? ≠ some Reserved.verbatimMark ∧
      ∀ c ∈ style.wordSeparator, Unicode.isAlphabetic c = false ∧ Unicode.isNumeric c = false :=
  forall_mem_builtin_styles builtinStyle_affixes

/-- Every candidate is rendered from words of ASCII names in the type, or plurals of such. -/
theorem exists_phrase_of_mem_suggest {p : RuleSet} {site : DeclarationSite}
    (hascii : ∀ type ∈ site.type, ∀ name ∈ type.names, name.IsAscii)
    {c : Candidate} (hc : c ∈ p.suggest site) :
    ∃ type ∈ site.type, ∃ v ∈ site.variants type, ∃ phrase ∈ v.phrases,
      let words := if v.plural then Word.pluralizeLast phrase else phrase
      c.text = Reserved.escape ((p.styleFor (site.symbol c.kind)).render words) ∧
        words ≠ [] ∧ ∀ w ∈ words, w.Inflected := by
  obtain ⟨type, htype, v, hv, -, phrase, hphrase, htext⟩ := exists_render_of_mem_suggest hc
  exact ⟨type, htype, v, hv, phrase, hphrase, htext,
    NameVariant.inflected_of_mem_phrases (hascii type htype) (TypeRef.isFrom_of_mem_decompose hv)
      hphrase⟩

/-- A candidate is the rendering of a phrase of a variant, and it complies with the style that names
symbols of its kind exactly if the style has a separator, or does not tell words apart by capitals,
or no word of the phrase is the plural of a numeral. -/
theorem suggest_isCompliant_iff (p : RuleSet) {site : DeclarationSite}
    (hstyles : ∀ style ∈ p.styles,
      style.requiredPrefix.head? ≠ some Reserved.verbatimMark ∧
      ∀ c ∈ style.wordSeparator, Unicode.isAlphabetic c = false ∧ Unicode.isNumeric c = false)
    (hascii : ∀ type ∈ site.type, ∀ name ∈ type.names, name.IsAscii)
    {c : Candidate} (hc : c ∈ p.suggest site) :
    ∃ type ∈ site.type, ∃ v ∈ site.variants type, ∃ phrase ∈ v.phrases,
      let style := p.styleFor (site.symbol c.kind)
      let words := if v.plural then Word.pluralizeLast phrase else phrase
      c.text = Reserved.escape (style.render words) ∧
        (style.isCompliant c.text = true ↔
          (style.wordSeparator = [] → style.capitalization.marksWords = true →
            ∀ w ∈ words, ¬ w.IsPluralNumeral)) := by
  obtain ⟨type, htype, v, hv, phrase, hphrase, htext, hne, hinflected⟩ :=
    exists_phrase_of_mem_suggest hascii hc
  refine ⟨type, htype, v, hv, phrase, hphrase, htext, ?_⟩
  have hstyle := styleFor_induction (P := fun style =>
      style.requiredPrefix.head? ≠ some Reserved.verbatimMark ∧
      ∀ c ∈ style.wordSeparator, Unicode.isAlphabetic c = false ∧ Unicode.isNumeric c = false)
    hstyles builtinStyle_affixes (site.symbol c.kind)
  have hregular : ∀ w ∈ if v.plural then Word.pluralizeLast phrase else phrase, w.IsRegular :=
    fun w hw => (hinflected w hw).isRegular
  rw [htext, Style.isCompliant_escape (Style.head?_render_ne hstyle.1 hne hregular),
    Style.isCompliant_render_iff hstyle.1
      (fun c hc => CharClass.of_eq_separator_iff.2 (hstyle.2 c hc)) hne hregular]
  exact forall₂_congr fun hsep hmarks => Style.attached_renderBody_iff hsep hmarks hinflected

/-- A property of several `Vector3` is to be named. -/
def vector3Site : DeclarationSite where
  possibleKinds := [.property]
  type := some (.array (.named { name := "Vector3".toList }))

theorem isAscii_vector3Site : ∀ type ∈ vector3Site.type, ∀ name ∈ type.names, name.IsAscii := by
  intro type htype name hname
  cases htype
  have hself : name = "Vector3".toList := by
    simpa [TypeRef.names, NamedType.names, TypeRef.namesOfList, TypeRef.namesOfOption] using hname
  rw [hself]
  simp [Text.IsAscii]

theorem vector3s_mem_suggest :
    ⟨"Vector3s".toList, .property⟩ ∈ builtin.suggest vector3Site := by decide +kernel

/-- The name `Vector3s` is suggested there. -/
theorem suggest_isCompliant_iff_vector3s :
    ⟨"Vector3s".toList, .property⟩ ∈ builtin.suggest vector3Site ∧
      ∃ type ∈ vector3Site.type, ∃ v ∈ vector3Site.variants type, ∃ phrase ∈ v.phrases,
        let style := builtin.styleFor (vector3Site.symbol .property)
        let words := if v.plural then Word.pluralizeLast phrase else phrase
        "Vector3s".toList = Reserved.escape (style.render words) ∧
          (style.isCompliant "Vector3s".toList = true ↔
            (style.wordSeparator = [] → style.capitalization.marksWords = true →
              ∀ w ∈ words, ¬ w.IsPluralNumeral)) :=
  ⟨vector3s_mem_suggest,
    suggest_isCompliant_iff builtin builtin_affixes isAscii_vector3Site vector3s_mem_suggest⟩

/-- The check does not accept that name: the conventions that suggest it ask for `Vector3S`. -/
theorem suggest_vector3s_not_isCompliant :
    ⟨"Vector3s".toList, .property⟩ ∈ builtin.suggest vector3Site ∧
      (builtin.styleFor (vector3Site.symbol .property)).isCompliant "Vector3s".toList = false ∧
      builtin.compliantNames (vector3Site.symbol .property) "Vector3s".toList =
        ["Vector3S".toList] :=
  ⟨vector3s_mem_suggest, by decide +kernel, by decide +kernel⟩

end RuleSet

end Nomenclator
