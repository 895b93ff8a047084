import Mathlib.Data.List.Find
import Mathlib.Data.List.Infix
import Nomenclator.Proofs.Rules.RuleSet
import Nomenclator.Proofs.Suggestion.Candidates
import Nomenclator.Proofs.Suggestion.Phrases

/-!
# The modifier of asynchronous declarations

Where no specification asks for `async`, writing it before a declaration only adds names, and only for
methods and local functions (`RuleSet.suggest_withoutAsync`). The modifier then chooses no style, and
what it does to a decomposition is to add phrases (`TypeRef.addsPhrases_decompose`). Phrases make no
names of other kinds, and the names that they make stand behind those of other kinds, so that they take
no name away from them.
-/

namespace Nomenclator

/-! ## Taking a modifier away -/

namespace ModifierSet

/-- The set without a member. -/
def erase (s : ModifierSet) (m : Modifier) : ModifierSet :=
  ofList (s.toList.filter fun x => x ≠ m)

@[simp] theorem contains_erase (s : ModifierSet) (m x : Modifier) :
    (s.erase m).contains x = (s.contains x && decide (x ≠ m)) := by
  rw [erase, contains_ofList, Bool.eq_iff_iff]
  simp

end ModifierSet

/-- The symbol without a modifier. -/
def Symbol.erase (symbol : Symbol) (m : Modifier) : Symbol :=
  { symbol with modifiers := symbol.modifiers.erase m }

/-- A specification that does not ask for a modifier does not see it. -/
theorem Specification.appliesTo_erase {s : Specification} {m : Modifier}
    (h : m ∉ s.requiredModifiers) (symbol : Symbol) :
    s.appliesTo (symbol.erase m) = s.appliesTo symbol := by
  have hall : s.requiredModifiers.all (symbol.modifiers.erase m).contains =
      s.requiredModifiers.all symbol.modifiers.contains := by
    rw [Bool.eq_iff_iff, List.all_eq_true, List.all_eq_true]
    refine forall₂_congr fun x hx => ?_
    have hne : x ≠ m := fun e => h (e ▸ hx)
    simp [hne]
  show (s.acceptsKind symbol.kind && s.acceptsAccessibility symbol.accessibility
    && s.requiredModifiers.all (symbol.modifiers.erase m).contains) = s.appliesTo symbol
  rw [hall, appliesTo]

/-- A symbol is named in the same style without a modifier that no specification asks for. -/
theorem RuleSet.styleFor_erase {p : RuleSet} {m : Modifier}
    (h : ∀ s ∈ p.specifications, m ∉ s.requiredModifiers) (symbol : Symbol) :
    p.styleFor (symbol.erase m) = p.styleFor symbol := by
  have hrule : p.governingRule? (symbol.erase m) = p.governingRule? symbol := by
    refine List.find?_congr fun rule hrule => ?_
    have hlisted : rule.specification ∈ p.specifications := (mem_of_mem_resolvedRules hrule).1
    exact Specification.appliesTo_erase (h rule.specification hlisted) symbol
  rw [styleFor, styleFor, hrule]
  rfl

/-! ## Renderings of phrases -/

namespace NameVariant

/-- How the last word of a phrase may be cased. -/
def asyncSpellings : List Text := ["Async".toList, "async".toList, "ASYNC".toList]

theorem cased_asyncWord (scheme : Capitalization) :
    scheme.caseFirst asyncWord ∈ asyncSpellings ∧ scheme.caseLater asyncWord ∈ asyncSpellings := by
  cases scheme <;> decide

theorem exists_infix_render_asyncPhrase (style : Style) (v : NameVariant) :
    ∃ spelling ∈ asyncSpellings, spelling <:+: style.render v.asyncPhrase.words := by
  have hword : asyncWord ∈ v.asyncPhrase.words := List.mem_append_right _ List.mem_cons_self
  have hbody : ∀ t ∈ style.capitalization.caseWords v.asyncPhrase.words,
      t <:+: style.render v.asyncPhrase.words := fun t ht =>
    (Text.infix_joinWith ht).trans (List.infix_append _ _ _)
  obtain ⟨hfirst, hlater⟩ := cased_asyncWord style.capitalization
  rcases style.capitalization.mem_caseWords_or hword with h | h
  · exact ⟨_, hfirst, hbody _ h⟩
  · exact ⟨_, hlater, hbody _ h⟩

/-- No reserved word has `async` in it, so a phrase is suggested without the verbatim mark. -/
theorem escape_render_asyncPhrase (style : Style) (v : NameVariant) :
    Reserved.escape (style.render v.asyncPhrase.words) = style.render v.asyncPhrase.words := by
  have hwords : ∀ word ∈ Reserved.words, ∀ spelling ∈ asyncSpellings,
      ¬ spelling <:+: word.toList := by
    decide
  have hfree : Reserved.isReserved (style.render v.asyncPhrase.words) = false := by
    obtain ⟨spelling, hspelling, hinfix⟩ := exists_infix_render_asyncPhrase style v
    refine List.any_eq_false.2 fun word hword heq => hwords word hword spelling hspelling ?_
    rw [beq_iff_eq.1 heq]
    exact hinfix
  rw [Reserved.escape, hfree]
  rfl

end NameVariant

/-! ## Sites -/

namespace DeclarationSite

/-- The site without the modifier `async`. -/
def withoutAsync (site : DeclarationSite) : DeclarationSite :=
  { site with modifiers := site.modifiers.erase .async }

/-- Without the modifier no phrases are asked for, and nothing else about a type changes. -/
theorem question?_withoutAsync (site : DeclarationSite) :
    site.withoutAsync.question? =
      site.question?.map fun q => { q with asyncPhrases := false } := by
  obtain ⟨kinds, modifiers, accessibility, type, siblings, hasName⟩ := site
  cases hasName with
  | true => rfl
  | false =>
    cases kinds with
    | nil => rfl
    | cons kind kinds => cases type <;> simp [withoutAsync, question?]

theorem of_question?_eq_some {site : DeclarationSite} {q : Question}
    (h : site.question? = some q) :
    q.type ∈ site.type ∧ q.type.decompose q.asyncPhrases = site.variants q.type := by
  unfold question? at h
  split at h
  · cases h
  · split at h
    · cases h
    · obtain ⟨type, htype, rfl⟩ := Option.map_eq_some_iff.1 h
      exact ⟨htype, rfl⟩

end DeclarationSite

/-! ## Candidates -/

theorem SymbolKind.isMethodLike_iff_rank {kind : SymbolKind} :
    kind.isMethodLike = true ↔ 7 ≤ kind.rank := by
  cases kind <;> simp [SymbolKind.isMethodLike, SymbolKind.rank]

namespace RuleSet

variable {p : RuleSet} {site : DeclarationSite} {vs plain : List NameVariant} {kind : SymbolKind}

/-- What variants make at a site does not depend on a modifier that no specification asks for. -/
theorem candidates_withoutAsync (h : ∀ s ∈ p.specifications, .async ∉ s.requiredModifiers)
    (site : DeclarationSite) (vs : List NameVariant) :
    p.candidates site.withoutAsync vs = p.candidates site vs := by
  have hfor : p.candidatesFor site.withoutAsync vs = p.candidatesFor site vs := by
    funext kind
    have hstyle : p.styleFor (site.withoutAsync.symbol kind) = p.styleFor (site.symbol kind) :=
      styleFor_erase h (site.symbol kind)
    unfold candidatesFor
    rw [hstyle]
    rfl
  unfold candidates
  rw [hfor]
  rfl

theorem Renders.mono (hsub : plain ⊆ vs) {name : Text} (h : p.Renders site plain kind name) :
    p.Renders site vs kind name := by
  obtain ⟨v, hv, hrest⟩ := h
  exact ⟨v, hsub hv, hrest⟩

/-- What is rendered with phrases is rendered without them or is a phrase. -/
theorem Renders.plain_or_phrase (hadds : AddsPhrases vs plain) {name : Text}
    (h : p.Renders site vs kind name) :
    p.Renders site plain kind name ∨
      kind.isMethodLike = true ∧
      Text.endsWith "Async".toList (p.styleFor (site.symbol kind)).requiredSuffix = false ∧
      ∃ u ∈ plain, u.asyncPhrase ∈ vs ∧
        name = (p.styleFor (site.symbol kind)).render u.asyncPhrase.words := by
  obtain ⟨v, hv, hfor, words, hwords, hname⟩ := h
  by_cases hphrase : v.methodPhrase = true
  · obtain ⟨u, hu, rfl⟩ := hadds.exists_of_phrase v hv hphrase
    obtain ⟨hkind, hsuffix⟩ := hfor hphrase
    rw [← Text.endsWith_iff, Bool.not_eq_true] at hsuffix
    have hall : words = u.asyncPhrase.words := hwords
    exact Or.inr ⟨hkind, hsuffix, u, hu, hv, by rw [hname, hall]; rfl⟩
  · have hmem : v ∈ plain := by
      rw [← hadds.filter_eq]
      exact List.mem_filter.2 ⟨hv, by simpa using hphrase⟩
    exact Or.inl ⟨v, hmem, hfor, words, hwords, hname⟩

/-- Phrases make no names of other kinds. -/
theorem candidatesFor_eq_of_addsPhrases (hadds : AddsPhrases vs plain)
    (hkind : kind.isMethodLike = false) :
    p.candidatesFor site vs kind = p.candidatesFor site plain kind := by
  have hfor : ∀ style, (fun v : NameVariant => v.isFor kind style) = fun v => !v.methodPhrase := by
    intro style
    funext v
    simp [NameVariant.isFor, hkind]
  have hplain : plain.filter (fun v => !v.methodPhrase) = plain :=
    List.filter_eq_self.2 fun v hv => by simp [hadds.methodPhrase_eq_false hv]
  unfold candidatesFor
  simp only [hfor, hadds.filter_eq, hplain]

/-- The names of other kinds stand in front, where phrases take nothing away from them. -/
theorem filter_candidates_of_addsPhrases (hadds : AddsPhrases vs plain) :
    (p.candidates site vs).filter (fun c => !c.kind.isMethodLike) =
      (p.candidates site plain).filter fun c => !c.kind.isMethodLike := by
  have hfront : ∀ vs, ((rankedKinds site.possibleKinds).flatMap (p.candidatesFor site vs)).Pairwise
      fun a b => (!b.kind.isMethodLike) = true → (!a.kind.isMethodLike) = true := by
    intro vs
    refine (p.pairwise_rank site vs).imp fun {a b} hab hb => ?_
    have hrank := SymbolKind.isMethodLike_iff_rank.not.1 (by simpa using hb)
    have hnot : ¬ a.kind.isMethodLike = true := SymbolKind.isMethodLike_iff_rank.not.2 (by omega)
    simpa using hnot
  rw [candidates, candidates, ← distinctBy_filter_of_pairwise (hfront vs),
    ← distinctBy_filter_of_pairwise (hfront plain), List.filter_flatMap, List.filter_flatMap]
  refine congrArg _ (List.flatMap_congr fun kind _ => ?_)
  by_cases hkind : kind.isMethodLike = true
  · have hnone : ∀ vs, (p.candidatesFor site vs kind).filter
        (fun c => !c.kind.isMethodLike) = [] := fun vs =>
      List.filter_eq_nil_iff.2 fun c hc => by
        rw [kind_of_mem_candidatesFor hc]
        simp [hkind]
    rw [hnone, hnone]
  · rw [candidatesFor_eq_of_addsPhrases hadds (by simpa using hkind)]

/-- Every text that is suggested without phrases is suggested with them. -/
theorem map_text_candidates_subset (hadds : AddsPhrases vs plain) :
    (p.candidates site plain).map Candidate.text ⊆ (p.candidates site vs).map Candidate.text := by
  intro text htext
  obtain ⟨kind, hkind, hmem⟩ := mem_map_text_candidates.1 htext
  obtain ⟨c, hc, rfl⟩ := List.mem_map.1 hmem
  obtain ⟨hck, name, hrenders, hopen, hescape⟩ := mem_candidatesFor.1 hc
  have hvs : c ∈ p.candidatesFor site vs kind :=
    mem_candidatesFor.2 ⟨hck, name, hrenders.mono hadds.subset, hopen, hescape⟩
  exact mem_map_text_candidates.2 ⟨kind, hkind, List.mem_map_of_mem hvs⟩

/-- A text that is suggested only with phrases is a phrase, for a kind that is called. -/
theorem phrase_of_mem_candidates (hadds : AddsPhrases vs plain) {c : Candidate}
    (hc : c ∈ p.candidates site vs)
    (hnew : c.text ∉ (p.candidates site plain).map Candidate.text) :
    c.kind.isMethodLike = true ∧
      Text.endsWith "Async".toList (p.styleFor (site.symbol c.kind)).requiredSuffix = false ∧
      ∃ u ∈ plain, u.asyncPhrase ∈ vs ∧
        c.text = (p.styleFor (site.symbol c.kind)).render u.asyncPhrase.words := by
  obtain ⟨hkind, hmem⟩ := mem_of_mem_candidates hc
  obtain ⟨-, name, hrenders, hopen, hescape⟩ := mem_candidatesFor.1 hmem
  rcases hrenders.plain_or_phrase hadds with hplain | ⟨hcalled, hsuffix, u, hu, hphrase, rfl⟩
  · have hfor : c ∈ p.candidatesFor site plain c.kind :=
      mem_candidatesFor.2 ⟨rfl, name, hplain, hopen, hescape⟩
    exact absurd (mem_map_text_candidates.2 ⟨c.kind, hkind, List.mem_map_of_mem hfor⟩) hnew
  · rw [NameVariant.escape_render_asyncPhrase] at hescape
    exact ⟨hcalled, hsuffix, u, hu, hphrase, hescape⟩

/-- Where no specification asks for the modifier `async`, the modifier leaves the names of kinds that
are not called as they are, takes no name away, and adds only phrases that end in `Async`, for methods
and local functions whose style does not end names so already. -/
theorem suggest_withoutAsync (p : RuleSet)
    (h : ∀ s ∈ p.specifications, .async ∉ s.requiredModifiers) (site : DeclarationSite) :
    ((p.suggest site).filter fun c => !c.kind.isMethodLike) =
        ((p.suggest site.withoutAsync).filter fun c => !c.kind.isMethodLike) ∧
    (p.suggest site.withoutAsync).map Candidate.text ⊆ (p.suggest site).map Candidate.text ∧
    ∀ c ∈ p.suggest site, c.text ∉ (p.suggest site.withoutAsync).map Candidate.text →
      c.kind.isMethodLike = true ∧
      Text.endsWith "Async".toList (p.styleFor (site.symbol c.kind)).requiredSuffix = false ∧
      ∃ type ∈ site.type, ∃ u ∈ type.decompose false, u.asyncPhrase ∈ site.variants type ∧
        c.text = (p.styleFor (site.symbol c.kind)).render u.asyncPhrase.words := by
  have hquestion := site.question?_withoutAsync
  cases hq : site.question? with
  | none =>
    rw [hq] at hquestion
    have hnone : p.suggest site = [] := by rw [suggest, hq]
    have hnone' : p.suggest site.withoutAsync = [] := by
      rw [suggest, hquestion]
      rfl
    rw [hnone, hnone']
    exact ⟨rfl, List.Subset.refl _, fun c hc => by cases hc⟩
  | some q =>
    rw [hq] at hquestion
    obtain ⟨htype, hvariants⟩ := DeclarationSite.of_question?_eq_some hq
    have hadds : AddsPhrases (site.variants q.type) (q.type.decompose false) :=
      TypeRef.addsPhrases_decompose _ q.type
    have hwith : p.suggest site = p.candidates site (site.variants q.type) := by
      rw [suggest, hq, ← hvariants]
    have hwithout : p.suggest site.withoutAsync = p.candidates site (q.type.decompose false) := by
      rw [suggest, hquestion]
      exact candidates_withoutAsync h site _
    rw [hwith, hwithout]
    refine ⟨filter_candidates_of_addsPhrases hadds, map_text_candidates_subset hadds, ?_⟩
    intro c hc hnew
    obtain ⟨hcalled, hsuffix, u, hu, hphrase, htext⟩ := phrase_of_mem_candidates hadds hc hnew
    exact ⟨hcalled, hsuffix, q.type, htype, u, hu, hphrase, htext⟩

/-- A property or a method of a task that gives a customer. -/
theorem suggest_withoutAsync_task :
    ∃ site : DeclarationSite, site.modifiers.contains .async = true ∧
      (∀ s ∈ builtin.specifications, .async ∉ s.requiredModifiers) ∧
      ((builtin.suggest site).filter fun c => !c.kind.isMethodLike) =
        ((builtin.suggest site.withoutAsync).filter fun c => !c.kind.isMethodLike) ∧
      (builtin.suggest site).map Candidate.text =
        ["Customer".toList, "GetCustomer".toList, "GetCustomerAsync".toList] ∧
      (builtin.suggest site.withoutAsync).map Candidate.text =
        ["Customer".toList, "GetCustomer".toList] := by
  have hspecifications : ∀ s ∈ builtin.specifications, .async ∉ s.requiredModifiers := by decide
  refine ⟨{ possibleKinds := [.method, .property]
            modifiers := .ofList [.async, .static]
            type := some (.named
              { name := "Task".toList
                arguments := [.named { name := "Customer".toList }] }) },
    by decide, hspecifications, (suggest_withoutAsync builtin hspecifications _).1,
    by decide +kernel, by decide +kernel⟩

end RuleSet

end Nomenclator
