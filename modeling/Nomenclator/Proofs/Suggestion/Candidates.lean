import Nomenclator.Proofs.Distinct
import Nomenclator.Proofs.Text.Splitting
import Nomenclator.Suggestion.Basic

/-!
# The list of candidates

What is suggested at a site with a type and without a name. Nothing is suggested twice, every
candidate renders a phrase of a variant of the type, and every rendering of one that may be suggested
is, for its kind or for a kind before it. The candidates of a kind stand in the order in which the
variants and their phrases make them, without those that a kind before it has
(`suggest_spec`).

`RuleSet.Renders` says which names a kind can have, apart from the names of siblings and from the
order, and `RuleSet.textsFor` lists what is made for a kind in full, repetitions included; the rest is
what `distinctBy` does to a list that is sorted by rank.
-/

namespace Nomenclator

/-! ## Sites -/

namespace DeclarationSite

/-- The variants of a type that names at the site are made of. -/
def variants (site : DeclarationSite) (type : TypeRef) : List NameVariant :=
  type.decompose (site.possibleKinds.any SymbolKind.isMethodLike && site.modifiers.contains .async)

theorem isOpen_iff {site : DeclarationSite} {name : Text} :
    site.isOpen name = true ↔
      1 < name.length ∧ ∀ sibling ∈ site.siblingNames, Reserved.unescape sibling ≠ name := by
  simp [isOpen, isTaken]

end DeclarationSite

namespace NameVariant

theorem isFor_iff {v : NameVariant} {kind : SymbolKind} {style : Style} :
    v.isFor kind style = true ↔
      (v.methodPhrase = true → kind.isMethodLike = true ∧
        ¬ "Async".toList <:+ style.requiredSuffix) := by
  rw [← Text.endsWith_iff]
  cases h : v.methodPhrase <;> simp [isFor, h]

theorem mem_phrases_iff {v : NameVariant} {words : List Word} :
    words ∈ v.phrases ↔
      if v.methodPhrase then words = v.words else words ∈ Word.groupings v.words := by
  unfold phrases
  split
  · exact List.mem_singleton
  · rfl

/-- A variant that is for other kinds makes no names; any other makes one for each of its phrases. -/
theorem ite_isFor_names (v : NameVariant) (kind : SymbolKind) (style : Style) :
    (if v.isFor kind style then v.names style else []) =
      (if v.methodPhrase = false then Word.groupings v.words
        else if kind.isMethodLike = true ∧ ¬ "Async".toList <:+ style.requiredSuffix then [v.words]
        else []).map
          fun words => style.render (if v.plural then Word.pluralizeLast words else words) := by
  by_cases hphrase : v.methodPhrase = false
  · have hfor : v.isFor kind style = true := isFor_iff.2 fun h => by simp [hphrase] at h
    rw [if_pos hfor, if_pos hphrase, names, phrases, if_neg (by simp [hphrase])]
  · have hphrase' : v.methodPhrase = true := by simpa using hphrase
    by_cases hcalled : kind.isMethodLike = true ∧ ¬ "Async".toList <:+ style.requiredSuffix
    · have hfor : v.isFor kind style = true := isFor_iff.2 fun _ => hcalled
      rw [if_pos hfor, if_neg hphrase, if_pos hcalled, names, phrases, if_pos hphrase']
    · have hfor : ¬ v.isFor kind style = true := by
        intro h
        exact hcalled (isFor_iff.1 h hphrase')
      rw [if_neg hfor, if_neg hphrase, if_neg hcalled, List.map_nil]

end NameVariant

namespace RuleSet

variable {p : RuleSet} {site : DeclarationSite} {vs : List NameVariant} {kind : SymbolKind}

/-- Some variant has a phrase that is rendered so, in the plural if the variant is. The phrases of a
variant are the groupings of its words. A method phrase is rendered as a whole, only names what is
called, and only where the style does not end names in `Async` anyway. -/
def Renders (p : RuleSet) (site : DeclarationSite) (vs : List NameVariant) (kind : SymbolKind)
    (name : Text) : Prop :=
  let style := p.styleFor (site.symbol kind)
  ∃ v ∈ vs,
    (v.methodPhrase = true → kind.isMethodLike = true ∧
      ¬ "Async".toList <:+ style.requiredSuffix) ∧
    ∃ words, (if v.methodPhrase then words = v.words else words ∈ Word.groupings v.words) ∧
      name = style.render (if v.plural then Word.pluralizeLast words else words)

/-- The renderings for a kind: variant by variant, and for each variant phrase by phrase. -/
def renderings (p : RuleSet) (site : DeclarationSite) (vs : List NameVariant) (kind : SymbolKind) :
    List Text :=
  let style := p.styleFor (site.symbol kind)
  vs.flatMap fun v =>
    let phrases :=
      if v.methodPhrase = false then Word.groupings v.words
      else if kind.isMethodLike = true ∧ ¬ "Async".toList <:+ style.requiredSuffix then [v.words]
      else []
    phrases.map fun words => style.render (if v.plural then Word.pluralizeLast words else words)

/-- The texts for a kind, in the order in which they are made and with repetitions: the renderings of
more than one character that no sibling has, escaped. -/
def textsFor (p : RuleSet) (site : DeclarationSite) (vs : List NameVariant) (kind : SymbolKind) :
    List Text :=
  ((p.renderings site vs kind).filter fun name =>
    1 < name.length ∧ ∀ sibling ∈ site.siblingNames, Reserved.unescape sibling ≠ name).map
      Reserved.escape

/-! ## The candidates for one kind -/

theorem mem_candidatesFor {c : Candidate} :
    c ∈ p.candidatesFor site vs kind ↔
      c.kind = kind ∧ ∃ name, p.Renders site vs kind name ∧ site.isOpen name = true ∧
        c.text = Reserved.escape name := by
  simp only [candidatesFor, List.mem_map, List.mem_filter, List.mem_flatMap, NameVariant.names]
  constructor
  · rintro ⟨name, ⟨⟨v, ⟨hv, hfor⟩, words, hwords, rfl⟩, hopen⟩, rfl⟩
    refine ⟨rfl, _, ⟨v, hv, NameVariant.isFor_iff.1 hfor, words, ?_, rfl⟩, hopen, rfl⟩
    exact NameVariant.mem_phrases_iff.1 hwords
  · rintro ⟨rfl, name, ⟨v, hv, hfor, words, hwords, rfl⟩, hopen, htext⟩
    refine ⟨_, ⟨⟨v, ⟨hv, NameVariant.isFor_iff.2 hfor⟩, words, ?_, rfl⟩, hopen⟩, ?_⟩
    · exact NameVariant.mem_phrases_iff.2 hwords
    · rw [← htext]

/-- The names that the variants make are the renderings. -/
theorem flatMap_names_eq_renderings (p : RuleSet) (site : DeclarationSite) (vs : List NameVariant)
    (kind : SymbolKind) :
    ((vs.filter fun v => v.isFor kind (p.styleFor (site.symbol kind))).flatMap fun v =>
      v.names (p.styleFor (site.symbol kind))) = p.renderings site vs kind := by
  induction vs with
  | nil => rfl
  | cons v vs ih =>
    have hcons : p.renderings site (v :: vs) kind =
        (if v.isFor kind (p.styleFor (site.symbol kind)) then v.names (p.styleFor (site.symbol kind))
          else []) ++ p.renderings site vs kind := by
      rw [v.ite_isFor_names kind]
      rfl
    rw [hcons, ← ih]
    by_cases hfor : v.isFor kind (p.styleFor (site.symbol kind)) = true <;> simp [hfor]

theorem map_text_candidatesFor (p : RuleSet) (site : DeclarationSite) (vs : List NameVariant)
    (kind : SymbolKind) :
    (p.candidatesFor site vs kind).map Candidate.text = p.textsFor site vs kind := by
  have hopen : ∀ name, site.isOpen name = decide (1 < name.length ∧
      ∀ sibling ∈ site.siblingNames, Reserved.unescape sibling ≠ name) := by
    intro name
    rw [Bool.eq_iff_iff, decide_eq_true_iff]
    exact DeclarationSite.isOpen_iff
  rw [candidatesFor, textsFor, flatMap_names_eq_renderings, List.map_map]
  congr 1
  exact List.filter_congr fun name _ => hopen name

theorem kind_of_mem_candidatesFor {c : Candidate} (h : c ∈ p.candidatesFor site vs kind) :
    c.kind = kind :=
  (mem_candidatesFor.1 h).1

/-! ## The candidates for all kinds -/

theorem mem_of_mem_candidates {c : Candidate} (h : c ∈ p.candidates site vs) :
    c.kind ∈ site.possibleKinds ∧ c ∈ p.candidatesFor site vs c.kind := by
  obtain ⟨kind, hkind, hc⟩ := List.mem_flatMap.1 (mem_of_mem_distinctBy h)
  rw [kind_of_mem_candidatesFor hc]
  exact ⟨mem_rankedKinds.1 hkind, hc⟩

/-- The texts that are suggested are those that are made for some kind. -/
theorem mem_map_text_candidates {text : Text} :
    text ∈ (p.candidates site vs).map Candidate.text ↔
      ∃ kind ∈ site.possibleKinds, text ∈ (p.candidatesFor site vs kind).map Candidate.text := by
  rw [candidates, map_distinctBy, mem_distinct, List.map_flatMap, List.mem_flatMap]
  exact exists_congr fun kind => and_congr_left fun _ => mem_rankedKinds

/-- Before repetitions are removed, the candidates stand by rank. -/
theorem pairwise_rank (p : RuleSet) (site : DeclarationSite) (vs : List NameVariant) :
    ((rankedKinds site.possibleKinds).flatMap (p.candidatesFor site vs)).Pairwise
      fun a b => a.kind.rank ≤ b.kind.rank := by
  rw [List.pairwise_flatMap]
  constructor
  · intro kind _
    refine List.pairwise_of_forall_mem_list fun a ha b hb => ?_
    have hkind : a.kind = b.kind :=
      (kind_of_mem_candidatesFor ha).trans (kind_of_mem_candidatesFor hb).symm
    exact Nat.le_of_eq (congrArg SymbolKind.rank hkind)
  · refine (pairwise_rankedKinds _).imp fun {j k} hjk a ha b hb => ?_
    rwa [kind_of_mem_candidatesFor ha, kind_of_mem_candidatesFor hb]

/-- A candidate for a kind is a candidate, or one of the same text is, for a kind that does not rank
behind. -/
theorem exists_mem_candidates {c : Candidate} (hkind : kind ∈ site.possibleKinds)
    (hc : c ∈ p.candidatesFor site vs kind) :
    ∃ b ∈ p.candidates site vs, b.text = c.text ∧ b.kind.rank ≤ kind.rank := by
  have hmem : c ∈ (rankedKinds site.possibleKinds).flatMap (p.candidatesFor site vs) :=
    List.mem_flatMap.2 ⟨kind, mem_rankedKinds.2 hkind, hc⟩
  obtain ⟨b, hb, htext, hbc⟩ :=
    exists_mem_distinctBy_of_pairwise Candidate.text (p.pairwise_rank site vs) hmem
  refine ⟨b, hb, htext, ?_⟩
  rw [← kind_of_mem_candidatesFor hc]
  rcases hbc with rfl | hle
  · exact Nat.le_refl _
  · exact hle

/-- The candidates of a kind: what the variants and their phrases make for it in order, each text
once and without the texts that a kind before it has. -/
theorem filter_kind_candidates (h : kind ∈ site.possibleKinds) :
    ((p.candidates site vs).filter fun c => c.kind = kind).map Candidate.text =
      (distinct (p.textsFor site vs kind)).filter fun text =>
        ∀ k ∈ (rankedKinds site.possibleKinds).takeWhile (· ≠ kind),
          text ∉ p.textsFor site vs k := by
  have hgroup : ∀ k, ∀ c ∈ p.candidatesFor site vs k, c.kind = k :=
    fun _ _ hc => kind_of_mem_candidatesFor hc
  rw [candidates, filter_distinctBy_flatMap hgroup (mem_rankedKinds.2 h)]
  simp only [map_text_candidatesFor]

/-! ## What is suggested -/

/-- The list holds the candidates that variants make at a site, in the order of their kinds and
then in the order in which the variants make them. -/
structure Suggests (p : RuleSet) (site : DeclarationSite) (vs : List NameVariant)
    (cs : List Candidate) : Prop where
  nodup : (cs.map Candidate.text).Nodup
  not_isReserved : ∀ c ∈ cs, Reserved.isReserved c.text = false
  kind_mem : ∀ c ∈ cs, c.kind ∈ site.possibleKinds
  ranked : cs.Pairwise fun a b => a.kind.rank ≤ b.kind.rank
  /-- Every candidate renders a phrase, has more than one character and is not taken. -/
  sound : ∀ c ∈ cs, ∃ name, c.text = Reserved.escape name ∧ 1 < name.length ∧
    (∀ sibling ∈ site.siblingNames, Reserved.unescape sibling ≠ name) ∧
    p.Renders site vs c.kind name
  /-- Every such name is suggested for its kind or for one that does not rank behind. -/
  complete : ∀ kind ∈ site.possibleKinds, ∀ name, p.Renders site vs kind name →
    1 < name.length → (∀ sibling ∈ site.siblingNames, Reserved.unescape sibling ≠ name) →
    ∃ c ∈ cs, c.text = Reserved.escape name ∧ c.kind.rank ≤ kind.rank
  /-- A kind keeps its first occurrences that no kind before it has. -/
  order : ∀ kind ∈ site.possibleKinds,
    (cs.filter fun c => c.kind = kind).map Candidate.text =
      (distinct (p.textsFor site vs kind)).filter fun text =>
        ∀ k ∈ (rankedKinds site.possibleKinds).takeWhile (· ≠ kind), text ∉ p.textsFor site vs k

theorem suggests_candidates (p : RuleSet) (site : DeclarationSite) (vs : List NameVariant) :
    p.Suggests site vs (p.candidates site vs) where
  nodup := distinctBy_nodup _ _
  not_isReserved := by
    intro c hc
    obtain ⟨-, name, -, -, htext⟩ := mem_candidatesFor.1 (mem_of_mem_candidates hc).2
    rw [htext]
    exact Reserved.isReserved_escape name
  kind_mem := fun c hc => (mem_of_mem_candidates hc).1
  ranked := (p.pairwise_rank site vs).sublist (distinctBy_sublist _ _)
  sound := by
    intro c hc
    obtain ⟨-, name, hrenders, hopen, htext⟩ := mem_candidatesFor.1 (mem_of_mem_candidates hc).2
    obtain ⟨hlen, hfree⟩ := DeclarationSite.isOpen_iff.1 hopen
    exact ⟨name, htext, hlen, hfree, hrenders⟩
  complete := by
    intro kind hkind name hrenders hlen hfree
    have hc : (⟨Reserved.escape name, kind⟩ : Candidate) ∈ p.candidatesFor site vs kind :=
      mem_candidatesFor.2
        ⟨rfl, name, hrenders, DeclarationSite.isOpen_iff.2 ⟨hlen, hfree⟩, rfl⟩
    exact exists_mem_candidates hkind hc
  order := fun _ hkind => filter_kind_candidates hkind

/-- A site that may declare nothing is not asked about, and nothing would come of it. -/
theorem suggest_eq_candidates (p : RuleSet) {site : DeclarationSite} {type : TypeRef}
    (hname : site.hasName = false) (htype : site.type = some type) :
    p.suggest site = p.candidates site (site.variants type) := by
  unfold suggest DeclarationSite.question?
  rw [hname, htype]
  by_cases hkinds : site.possibleKinds.isEmpty = true
  · have hnil : site.possibleKinds = [] := by simpa using hkinds
    have hranked : rankedKinds [] = [] := by decide
    simp [candidates, hnil, hranked, distinctBy]
  · simp [hkinds, DeclarationSite.variants]

/-- Every candidate is a rendering of a phrase of a variant of the type of the site. -/
theorem exists_render_of_mem_suggest {c : Candidate} (hc : c ∈ p.suggest site) :
    ∃ type ∈ site.type, ∃ v ∈ site.variants type, v.isFor c.kind (p.styleFor (site.symbol c.kind)) ∧
      ∃ phrase ∈ v.phrases, c.text = Reserved.escape ((p.styleFor (site.symbol c.kind)).render
        (if v.plural then Word.pluralizeLast phrase else phrase)) := by
  have hsite : site.hasName = false ∧ ∃ type, site.type = some type := by
    unfold suggest DeclarationSite.question? at hc
    cases hname : site.hasName <;> cases htype : site.type <;> simp [hname, htype] at hc ⊢
  obtain ⟨hname, type, htype⟩ := hsite
  rw [p.suggest_eq_candidates hname htype] at hc
  obtain ⟨name, htext, -, -, v, hv, hfor, phrase, hphrase, rfl⟩ :=
    (p.suggests_candidates site (site.variants type)).sound c hc
  exact ⟨type, htype, v, hv, NameVariant.isFor_iff.2 hfor, phrase,
    NameVariant.mem_phrases_iff.2 hphrase, htext⟩

end RuleSet

end Nomenclator
