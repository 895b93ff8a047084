import Nomenclator.Proofs.Suggestion.Async
import Nomenclator.Proofs.Suggestion.Compliance

/-!
# Names that end in `Async` twice

A phrase for something awaited ends in `Async`, and so may the names of a style. Where both would meet,
the phrase is left out. Nothing else keeps a name from ending in `AsyncAsync`: the phrase is put behind a
name that ends in `Async` already, and a suffix behind words that do. Which names end so is told by the
variant that they are made of (`RuleSet.suggest_doubledAsync_iff`). One such name is
`GetCustomerAsyncAsync`, for an asynchronous method that gives a task of a `CustomerAsync`
(`RuleSet.suggest_getCustomerAsyncAsync`).
-/

namespace Nomenclator

/-- What no name should end in. -/
def doubledAsync : Text := "AsyncAsync".toList

theorem doubledAsync_eq : doubledAsync = "Async".toList ++ "Async".toList := rfl

/-! ## The word of a phrase at the end of a name -/

/-- The mark of a reserved word is not part of what a name ends in. -/
theorem Reserved.suffix_escape_iff {p name : Text} (h : p.head? ≠ some verbatimMark) :
    p <:+ escape name ↔ p <:+ name := by
  unfold escape
  split
  · rw [List.suffix_cons_iff, or_iff_right]
    rintro rfl
    exact h rfl
  · rfl

namespace NameVariant

/-- Only schemes that mark words leave the word of a phrase as it is. -/
theorem caseLater_asyncWord_iff (scheme : Capitalization) :
    scheme.caseLater asyncWord = "Async".toList ↔ scheme.marksWords = true := by
  cases scheme <;> decide

/-- A spelling of the word and a suffix that does not end in `Async` make the end of `AsyncAsync` only
if the suffix is empty. -/
theorem suffix_spelling_append_iff {t spelling q : Text} (hspelling : spelling ∈ asyncSpellings)
    (hq : ¬ "Async".toList <:+ q) :
    doubledAsync <:+ t ++ (spelling ++ q) ↔
      q = [] ∧ spelling = "Async".toList ∧ "Async".toList <:+ t := by
  constructor
  · intro h
    have hlast : "Async".toList <:+ doubledAsync := by decide
    have hend : q <:+ t ++ (spelling ++ q) :=
      (List.suffix_append spelling q).trans (List.suffix_append t _)
    have hshort : q <:+ "Async".toList :=
      (List.suffix_or_suffix_of_suffix (hlast.trans h) hend).resolve_left hq
    have hwithin : spelling ++ q <:+ doubledAsync := by
      refine List.suffix_of_suffix_length_le (List.suffix_append t _) h ?_
      have hlength : ∀ s ∈ asyncSpellings, s.length = 5 := by decide
      have hle : q.length ≤ 5 := hshort.length_le
      rw [List.length_append, hlength spelling hspelling]
      show 5 + q.length ≤ 10
      omega
    -- Behind the word, a shorter end of `Async` would stand where `AsyncAsync` has other characters.
    have hends : ∀ s ∈ asyncSpellings, ∀ e ∈ "Async".toList.tails, s ++ e <:+ doubledAsync →
        e = "Async".toList ∨ e = [] ∧ s = "Async".toList := by
      decide
    rcases hends spelling hspelling q ((List.mem_tails _ _).2 hshort) hwithin with heq | ⟨hnil, heq⟩
    · rw [heq] at hq
      exact absurd List.suffix_rfl hq
    · rw [hnil, heq, List.append_nil, doubledAsync_eq] at h
      exact ⟨hnil, heq, List.suffix_append_self_iff.1 h⟩
  · rintro ⟨hnil, heq, hfront⟩
    rw [hnil, heq, List.append_nil, doubledAsync_eq]
    exact List.suffix_append_self_iff.2 hfront

/-- Where a phrase is for a style, its name ends in `AsyncAsync` exactly if the style writes the word of
the phrase last and as it is, and what stands before it ends in `Async` already. -/
theorem suffix_render_asyncPhrase_iff {style : Style} {u : NameVariant} (hne : u.words ≠ [])
    (hsuffix : ¬ "Async".toList <:+ style.requiredSuffix) :
    doubledAsync <:+ style.render u.asyncPhrase.words ↔
      style.requiredSuffix = [] ∧ style.capitalization.marksWords = true ∧
        "Async".toList <:+ style.requiredPrefix ++ style.renderBody u.asyncPhrase.words.dropLast ++
          style.wordSeparator := by
  have hwords := Word.ite_pluralizeLast_ne_nil u.plural hne
  have hrender : style.render u.asyncPhrase.words =
      style.requiredPrefix ++ style.renderBody u.asyncPhrase.words.dropLast ++ style.wordSeparator ++
        (style.capitalization.caseLater asyncWord ++ style.requiredSuffix) := by
    simp only [asyncPhrase, List.dropLast_concat]
    rw [Style.render, Style.renderBody_concat style hwords]
    simp only [List.append_assoc]
  rw [hrender, suffix_spelling_append_iff (cased_asyncWord _).2 hsuffix, caseLater_asyncWord_iff]

end NameVariant

/-! ## Candidates -/

namespace RuleSet

/-- No affix of the built-in styles doubles the word. -/
theorem builtin_affixes_not_doubledAsync : ∀ style ∈ builtin.styles,
    ¬ doubledAsync <:+: style.requiredPrefix ∧ ¬ doubledAsync <:+: style.requiredSuffix ∧
      ¬ doubledAsync <:+: style.wordSeparator := by
  decide

/-- A candidate is the rendering of a phrase of a variant. Made of what is awaited, it ends in
`AsyncAsync` exactly if its style writes `Async` last and what stands before it ends in `Async` already;
made otherwise, exactly if the suffix of its style is an end of `AsyncAsync` and the rest of it ends what
stands before the suffix. -/
theorem suggest_doubledAsync_iff (p : RuleSet) {site : DeclarationSite}
    (hstyles : ∀ style ∈ p.styles, ¬ doubledAsync <:+: style.requiredSuffix)
    {c : Candidate} (hc : c ∈ p.suggest site) :
    ∃ type ∈ site.type, ∃ v ∈ site.variants type, ∃ phrase ∈ v.phrases,
      let style := p.styleFor (site.symbol c.kind)
      let words := if v.plural then Word.pluralizeLast phrase else phrase
      c.text = Reserved.escape (style.render words) ∧
        (v.methodPhrase = true →
          (doubledAsync <:+ c.text ↔
            style.requiredSuffix = [] ∧ style.capitalization.marksWords = true ∧
              "Async".toList <:+
                style.requiredPrefix ++ style.renderBody words.dropLast ++ style.wordSeparator)) ∧
        (v.methodPhrase = false →
          (doubledAsync <:+ c.text ↔
            ∃ front, front ≠ [] ∧ front ++ style.requiredSuffix = doubledAsync ∧
              front <:+ style.requiredPrefix ++ style.renderBody words)) := by
  obtain ⟨type, htype, v, hv, hfor, phrase, hphrase, htext⟩ := exists_render_of_mem_suggest hc
  have hsuffix : ¬ doubledAsync <:+: (p.styleFor (site.symbol c.kind)).requiredSuffix :=
    styleFor_induction (P := fun style => ¬ doubledAsync <:+: style.requiredSuffix) hstyles
      (fun kind => (builtin_affixes_not_doubledAsync _ (builtinStyle_mem_styles kind)).2.1) _
  have hmark : doubledAsync.head? ≠ some Reserved.verbatimMark := by decide
  refine ⟨type, htype, v, hv, phrase, hphrase, htext, ?_, ?_⟩
  · intro hcalled
    rw [htext, Reserved.suffix_escape_iff hmark]
    rcases TypeRef.isFrom_of_mem_decompose hv with hplain | ⟨u, hu, rfl⟩
    · rw [hplain.1] at hcalled
      cases hcalled
    · have hall : phrase = u.asyncPhrase.words := List.mem_singleton.1 hphrase
      rw [hall]
      exact NameVariant.suffix_render_asyncPhrase_iff hu.2.1 (NameVariant.isFor_iff.1 hfor rfl).2
  · intro _
    rw [htext, Reserved.suffix_escape_iff hmark]
    exact Text.suffix_append_iff hsuffix

/-- An asynchronous method that gives a task of a `CustomerAsync` is to be named. -/
def customerAsyncSite : DeclarationSite where
  possibleKinds := [.method]
  modifiers := .ofList [.async]
  type := some (.named
    { name := "Task".toList, arguments := [.named { name := "CustomerAsync".toList }] })

theorem getCustomerAsyncAsync_mem_suggest :
    ⟨"GetCustomerAsyncAsync".toList, .method⟩ ∈ builtin.suggest customerAsyncSite := by
  decide +kernel

theorem suggest_doubledAsync_iff_customerAsync :
    (∀ style ∈ builtin.styles, ¬ doubledAsync <:+: style.requiredSuffix) ∧
    ⟨"GetCustomerAsyncAsync".toList, .method⟩ ∈ builtin.suggest customerAsyncSite ∧
    ∃ type ∈ customerAsyncSite.type, ∃ v ∈ customerAsyncSite.variants type, ∃ phrase ∈ v.phrases,
      let style := builtin.styleFor (customerAsyncSite.symbol .method)
      let words := if v.plural then Word.pluralizeLast phrase else phrase
      "GetCustomerAsyncAsync".toList = Reserved.escape (style.render words) ∧
        (v.methodPhrase = true →
          (doubledAsync <:+ "GetCustomerAsyncAsync".toList ↔
            style.requiredSuffix = [] ∧ style.capitalization.marksWords = true ∧
              "Async".toList <:+
                style.requiredPrefix ++ style.renderBody words.dropLast ++ style.wordSeparator)) ∧
        (v.methodPhrase = false →
          (doubledAsync <:+ "GetCustomerAsyncAsync".toList ↔
            ∃ front, front ≠ [] ∧ front ++ style.requiredSuffix = doubledAsync ∧
              front <:+ style.requiredPrefix ++ style.renderBody words)) :=
  have hstyles := fun style hstyle => (builtin_affixes_not_doubledAsync style hstyle).2.1
  ⟨hstyles, getCustomerAsyncAsync_mem_suggest,
    suggest_doubledAsync_iff builtin hstyles getCustomerAsyncAsync_mem_suggest⟩

/-- No name in the type and no affix has `AsyncAsync` in it, and a name ends in it all the same. -/
theorem suggest_getCustomerAsyncAsync :
    (∀ type ∈ customerAsyncSite.type, ∀ name ∈ type.names, ¬ doubledAsync <:+: name) ∧
    (∀ style ∈ builtin.styles,
      ¬ doubledAsync <:+: style.requiredPrefix ∧ ¬ doubledAsync <:+: style.requiredSuffix ∧
        ¬ doubledAsync <:+: style.wordSeparator) ∧
    ∃ c ∈ builtin.suggest customerAsyncSite, doubledAsync <:+ c.text :=
  ⟨by decide, builtin_affixes_not_doubledAsync, _, getCustomerAsyncAsync_mem_suggest, by decide⟩

end RuleSet

end Nomenclator
