import Nomenclator.Proofs.Style.Identifiers
import Nomenclator.Proofs.Suggestion.Compliance

/-!
# Suggested names as identifiers

Where the names in a type and the affixes and separators of the styles are made of ASCII letters,
digits and underscores, so are the suggested names. They are identifiers too, with one exception: a
phrase may start with the numeral of a name, such as `3D` of `Vector3D`, and a style without a prefix
then makes a name that starts with a digit (`suggest_isIdentifier_iff`,
`suggest_3d_not_isIdentifier`).
-/

namespace Nomenclator

/-! ## Candidates -/

namespace RuleSet

theorem fitsIdentifiers_builtinStyle (kind : SymbolKind) :
    (builtinStyle kind).FitsIdentifiers := by
  have hnone : ∀ style : Style, style.requiredPrefix = [] → style.wordSeparator = [] →
      style.requiredSuffix = [] → style.FitsIdentifiers := by
    intro style hlead hseparator hsuffix
    constructor <;> simp [hlead, hseparator, hsuffix]
  have hgetter : getterStyle.FitsIdentifiers := by
    refine ⟨List.all_eq_true.1 (by decide), List.all_eq_true.1 rfl, List.all_eq_true.1 rfl, ?_⟩
    intro c hc
    obtain rfl : 'G' = c := Option.some.inj hc
    rfl
  cases kind with
  | field | localVariable | parameter | localFunction => exact hnone camelStyle rfl rfl rfl
  | method => exact hgetter
  | property | event | typeParameter | type _ => exact hnone pascalStyle rfl rfl rfl

/-- Every candidate is the rendering of a phrase of a variant. Without a verbatim mark it holds
letters, digits and underscores only, and it is an identifier exactly if the style has a prefix or
the first word that is rendered does not start with a digit. -/
theorem suggest_isIdentifier_iff (p : RuleSet) {site : DeclarationSite}
    (hstyles : ∀ style ∈ p.styles, style.FitsIdentifiers)
    (hnames : ∀ type ∈ site.type, ∀ name ∈ type.names, name.IsIdentifier)
    {c : Candidate} (hc : c ∈ p.suggest site) :
    ∃ type ∈ site.type, ∃ v ∈ site.variants type, ∃ phrase ∈ v.phrases,
      let style := p.styleFor (site.symbol c.kind)
      let words := if v.plural then Word.pluralizeLast phrase else phrase
      c.text = Reserved.escape (style.render words) ∧
        (∀ d ∈ Reserved.unescape c.text, Text.isIdentifierChar d = true) ∧
        ((Reserved.unescape c.text).IsIdentifier ↔
          (style.requiredPrefix = [] → ∀ w ∈ words.head?, w.text.NotFirst .digit)) := by
  have hascii : ∀ type ∈ site.type, ∀ name ∈ type.names, name.IsAscii :=
    fun type htype name hname => (hnames type htype name hname).isAscii
  obtain ⟨type, htype, v, hv, phrase, hphrase, htext, hne, hinflected⟩ :=
    exists_phrase_of_mem_suggest hascii hc
  have hstyle := styleFor_induction (P := Style.FitsIdentifiers) hstyles
    fitsIdentifiers_builtinStyle (site.symbol c.kind)
  have hregular : ∀ w ∈ if v.plural then Word.pluralizeLast phrase else phrase, w.IsRegular :=
    fun w hw => (hinflected w hw).isRegular
  refine ⟨type, htype, v, hv, phrase, hphrase, htext, ?_⟩
  rw [htext, Style.unescape_escape_render hstyle hregular]
  constructor
  · intro d hd
    exact Style.isIdentifierChar_of_mem_render hstyle hregular hd
  · exact Style.isIdentifier_render_iff hstyle hne hregular

/-- A property of the type `Vector3D` is to be named. -/
def vector3DSite : DeclarationSite where
  possibleKinds := [.property]
  type := some (.named { name := "Vector3D".toList })

theorem isIdentifier_vector3DSite :
    ∀ type ∈ vector3DSite.type, ∀ name ∈ type.names, name.IsIdentifier := by
  intro type htype name hname
  cases htype
  have hself : name = "Vector3D".toList := by
    simpa [TypeRef.names, NamedType.names, TypeRef.namesOfList, TypeRef.namesOfOption] using hname
  rw [hself]
  exact ⟨⟨'V', rfl, Or.inl (by decide)⟩, List.all_eq_true.1 (by decide)⟩

theorem fitsIdentifiers_of_mem_builtin : ∀ style ∈ builtin.styles, style.FitsIdentifiers :=
  forall_mem_builtin_styles fitsIdentifiers_builtinStyle

theorem vector3_3d_mem_suggest :
    ⟨"Vector3".toList, .property⟩ ∈ builtin.suggest vector3DSite ∧
      ⟨"3D".toList, .property⟩ ∈ builtin.suggest vector3DSite := by decide +kernel

/-- The name `Vector3` is suggested there. -/
theorem suggest_isIdentifier_iff_vector3 :
    ⟨"Vector3".toList, .property⟩ ∈ builtin.suggest vector3DSite ∧
      ∃ type ∈ vector3DSite.type, ∃ v ∈ vector3DSite.variants type, ∃ phrase ∈ v.phrases,
        let style := builtin.styleFor (vector3DSite.symbol .property)
        let words := if v.plural then Word.pluralizeLast phrase else phrase
        "Vector3".toList = Reserved.escape (style.render words) ∧
          (∀ d ∈ Reserved.unescape "Vector3".toList, Text.isIdentifierChar d = true) ∧
          ((Reserved.unescape "Vector3".toList).IsIdentifier ↔
            (style.requiredPrefix = [] → ∀ w ∈ words.head?, w.text.NotFirst .digit)) :=
  ⟨vector3_3d_mem_suggest.1,
    suggest_isIdentifier_iff builtin fitsIdentifiers_of_mem_builtin isIdentifier_vector3DSite
      vector3_3d_mem_suggest.1⟩

/-- So is `3D`, which is no identifier, although the type and the styles are written with
identifiers. -/
theorem suggest_3d_not_isIdentifier :
    (∀ style ∈ builtin.styles, style.FitsIdentifiers) ∧
      (∀ type ∈ vector3DSite.type, ∀ name ∈ type.names, name.IsIdentifier) ∧
      ⟨"3D".toList, .property⟩ ∈ builtin.suggest vector3DSite ∧
      ¬ (Reserved.unescape "3D".toList).IsIdentifier := by
  refine ⟨fitsIdentifiers_of_mem_builtin, isIdentifier_vector3DSite, vector3_3d_mem_suggest.2, ?_⟩
  rintro ⟨⟨c, hc, hstart⟩, -⟩
  obtain rfl : c = '3' := by simpa [Reserved.unescape, Reserved.verbatimMark] using hc.symm
  exact absurd hstart (by decide)

end RuleSet

end Nomenclator
