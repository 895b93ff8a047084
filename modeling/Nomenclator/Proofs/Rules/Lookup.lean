import Mathlib.Data.List.Nodup
import Nomenclator.Proofs.Rules.RuleSet
import Nomenclator.Rules.Builtin

/-!
# Checked references and the first rule that applies

Lists make a rule set exactly if no two specifications and no two styles share an id and no rule
refers to an id that is not listed. Otherwise the first thing wrong with them is reported:
`FirstFault` says which one that is, looking at the specifications first, then at the styles and
then at the rules in order.

In a rule set a symbol is governed by the first rule whose specification applies to it
(`RuleSet.LooksUp`). It is looked up by the places that are kept for the rules, and no place is beyond
the end of its list. `RuleSet.ofLists_spec` puts the two halves together.
-/

namespace Nomenclator

/-! ## Repeated ids -/

/-- No id is repeated, and none has been seen before. -/
def AreFresh (seen ids : List Uuid) : Prop := ids.Nodup ∧ ∀ id ∈ ids, id ∉ seen

/-- The id stands behind an equal one, and in front of it no id is repeated. -/
def IsFirstRepeat (id : Uuid) (ids : List Uuid) : Prop :=
  ∃ before after, ids = before ++ id :: after ∧ before.Nodup ∧ id ∈ before

theorem areFresh_cons {seen ids : List Uuid} {id : Uuid} :
    AreFresh seen (id :: ids) ↔ id ∉ seen ∧ AreFresh (id :: seen) ids := by
  simp only [AreFresh, List.nodup_cons, List.mem_cons, not_or]
  constructor
  · rintro ⟨⟨hid, hnodup⟩, hnew⟩
    refine ⟨hnew id (Or.inl rfl), hnodup, fun x hx => ⟨?_, hnew x (Or.inr hx)⟩⟩
    rintro rfl
    exact hid hx
  · rintro ⟨hseen, hnodup, hids⟩
    refine ⟨⟨fun hid => (hids id hid).1 rfl, hnodup⟩, ?_⟩
    rintro x (rfl | hx)
    · exact hseen
    · exact (hids x hx).2

/-- What is found is the first id that stands behind an equal one, if those already seen count as
standing in front. The induction is on the ids that are left. -/
theorem firstRepeat?_eq_some_iff {seen ids : List Uuid} {id : Uuid} :
    firstRepeat? seen ids = some id ↔
      ∃ before after, ids = before ++ id :: after ∧ AreFresh seen before ∧
        (id ∈ before ∨ id ∈ seen) := by
  induction ids generalizing seen with
  | nil => simp [firstRepeat?]
  | cons x ids ih =>
    have hmove : ∀ before, id ∈ x :: before ∨ id ∈ seen ↔ id ∈ before ∨ id ∈ x :: seen := by
      intro before
      rw [List.mem_cons, List.mem_cons, or_assoc, or_left_comm]
    rw [firstRepeat?]
    by_cases hx : x ∈ seen
    · rw [if_pos hx]
      constructor
      · intro h
        cases h
        exact ⟨[], ids, rfl, ⟨List.nodup_nil, by simp⟩, Or.inr hx⟩
      · rintro ⟨before, after, heq, hfresh, -⟩
        cases before with
        | nil =>
          cases heq
          rfl
        | cons y before =>
          cases heq
          exact absurd hx (areFresh_cons.1 hfresh).1
    · rw [if_neg hx, ih]
      constructor
      · rintro ⟨before, after, rfl, hfresh, hid⟩
        exact ⟨x :: before, after, rfl, areFresh_cons.2 ⟨hx, hfresh⟩, (hmove before).2 hid⟩
      · rintro ⟨before, after, heq, hfresh, hid⟩
        cases before with
        | nil =>
          cases heq
          exact absurd (hid.resolve_left (by simp)) hx
        | cons y before =>
          cases heq
          exact ⟨before, after, rfl, (areFresh_cons.1 hfresh).2, (hmove before).1 hid⟩

theorem firstRepeat?_nil_eq_some_iff {ids : List Uuid} {id : Uuid} :
    firstRepeat? [] ids = some id ↔ IsFirstRepeat id ids := by
  simp [firstRepeat?_eq_some_iff, IsFirstRepeat, AreFresh]

theorem firstRepeat?_nil_eq_none_iff {ids : List Uuid} :
    firstRepeat? [] ids = none ↔ ids.Nodup := by
  simp [firstRepeat?_eq_none_iff]

/-! ## References to nothing -/

/-- What is wrong with a rule at a place: its specification is not listed, or else its style is
not. -/
inductive Rule.Fault (specificationIds styleIds : List Uuid) (rule : Rule) (index : Nat) :
    RuleSetError → Prop
  | specification (h : rule.specificationId ∉ specificationIds) :
      Fault specificationIds styleIds rule index
        (.unknownSpecification index rule.specificationId)
  | style (hlisted : rule.specificationId ∈ specificationIds) (h : rule.styleId ∉ styleIds) :
      Fault specificationIds styleIds rule index (.unknownStyle index rule.styleId)

theorem Rule.Fault.not_isListed {specificationIds styleIds : List Uuid} {rule : Rule} {index : Nat}
    {e : RuleSetError} (h : rule.Fault specificationIds styleIds index e) :
    ¬ rule.IsListed specificationIds styleIds := by
  rintro ⟨hspecification, hstyle⟩
  cases h with
  | specification h => exact h hspecification
  | style _ h => exact h hstyle

section Dangling

variable {specifications : List Specification} {styles : List Style} {index : Nat} {rule : Rule}
  {rules : List Rule} {e : RuleSetError}

/-- A rule is not located exactly for what is wrong with it. -/
theorem Rule.locate_eq_error_iff :
    rule.locate specifications styles index = .error e ↔
      rule.Fault (specifications.map (·.id)) (styles.map (·.id)) index e := by
  unfold Rule.locate
  split
  · rename_i hspecification
    have hnone := findIdx?_id_eq_none_iff.1 hspecification
    constructor
    · intro h
      cases h
      exact .specification hnone
    · intro hfault
      cases hfault with
      | specification => rfl
      | style hlisted => exact absurd hlisted hnone
  · rename_i i hspecification
    have hlisted := mem_of_findIdx?_id_eq_some hspecification
    split
    · rename_i hstyle
      have hnone := findIdx?_id_eq_none_iff.1 hstyle
      constructor
      · intro h
        cases h
        exact .style hlisted hnone
      · intro hfault
        cases hfault with
        | specification h => exact absurd hlisted h
        | style => rfl
    · rename_i j hstyle
      have hboth := mem_of_findIdx?_id_eq_some hstyle
      refine iff_of_false (fun h => by cases h) fun hfault => ?_
      exact hfault.not_isListed ⟨hlisted, hboth⟩

theorem locateFrom_cons_of_isListed
    (h : rule.IsListed (specifications.map (·.id)) (styles.map (·.id))) :
    locateFrom specifications styles index (rule :: rules) = .error e ↔
      locateFrom specifications styles (index + 1) rules = .error e := by
  obtain ⟨places, hplaces⟩ := (Rule.exists_locate_eq_ok_iff index).2 h
  rw [locateFrom, hplaces]
  cases locateFrom specifications styles (index + 1) rules with
  | error f => rfl
  | ok rest => exact iff_of_false (fun h => by cases h) (fun h => by cases h)

theorem locateFrom_cons_of_not_isListed
    (h : ¬ rule.IsListed (specifications.map (·.id)) (styles.map (·.id))) :
    locateFrom specifications styles index (rule :: rules) = .error e ↔
      rule.Fault (specifications.map (·.id)) (styles.map (·.id)) index e := by
  rw [← Rule.locate_eq_error_iff, locateFrom]
  cases hlocate : rule.locate specifications styles index with
  | error f => simp only [Except.error.injEq]
  | ok places => exact absurd ((Rule.exists_locate_eq_ok_iff index).1 ⟨places, hlocate⟩) h

/-- What is found is what is wrong with the first rule that is not listed. -/
theorem locateFrom_eq_error_iff :
    locateFrom specifications styles index rules = .error e ↔
      ∃ before rule after, rules = before ++ rule :: after ∧
        (∀ r ∈ before, r.IsListed (specifications.map (·.id)) (styles.map (·.id))) ∧
        rule.Fault (specifications.map (·.id)) (styles.map (·.id)) (index + before.length) e := by
  induction rules generalizing index with
  | nil => simp [locateFrom]
  | cons r rules ih =>
    by_cases hr : r.IsListed (specifications.map (·.id)) (styles.map (·.id))
    · rw [locateFrom_cons_of_isListed hr, ih]
      constructor
      · rintro ⟨before, rule, after, rfl, hbefore, hfault⟩
        refine ⟨r :: before, rule, after, rfl, List.forall_mem_cons.2 ⟨hr, hbefore⟩, ?_⟩
        rwa [List.length_cons, Nat.add_comm before.length, ← Nat.add_assoc]
      · rintro ⟨before, rule, after, heq, hbefore, hfault⟩
        cases before with
        | nil =>
          cases heq
          exact absurd hr hfault.not_isListed
        | cons q before =>
          cases heq
          refine ⟨before, rule, after, rfl, (List.forall_mem_cons.1 hbefore).2, ?_⟩
          rwa [List.length_cons, Nat.add_comm before.length, ← Nat.add_assoc] at hfault
    · rw [locateFrom_cons_of_not_isListed hr]
      constructor
      · intro hfault
        exact ⟨[], r, rules, rfl, List.forall_mem_nil _, hfault⟩
      · rintro ⟨before, rule, after, heq, hbefore, hfault⟩
        cases before with
        | nil =>
          cases heq
          exact hfault
        | cons q before =>
          cases heq
          exact absurd (hbefore r List.mem_cons_self) hr

end Dangling

/-! ## The check of the lists -/

/-- The first thing wrong with the lists: a repeated specification, or else a repeated style, or
else the first rule that is not listed. -/
inductive FirstFault (specifications : List Specification) (styles : List Style)
    (rules : List Rule) : RuleSetError → Prop
  | duplicateSpecification {id : Uuid} (h : IsFirstRepeat id (specifications.map (·.id))) :
      FirstFault specifications styles rules (.duplicateSpecification id)
  | duplicateStyle {id : Uuid} (hspecifications : (specifications.map (·.id)).Nodup)
      (h : IsFirstRepeat id (styles.map (·.id))) :
      FirstFault specifications styles rules (.duplicateStyle id)
  | dangling {before : List Rule} {rule : Rule} {after : List Rule} {e : RuleSetError}
      (hspecifications : (specifications.map (·.id)).Nodup)
      (hstyles : (styles.map (·.id)).Nodup) (hrules : rules = before ++ rule :: after)
      (hbefore : ∀ r ∈ before, r.IsListed (specifications.map (·.id)) (styles.map (·.id)))
      (h : rule.Fault (specifications.map (·.id)) (styles.map (·.id)) before.length e) :
      FirstFault specifications styles rules e

namespace RuleSet

variable {specifications : List Specification} {styles : List Style} {rules : List Rule}

theorem exists_ofLists_eq_ok_iff :
    (∃ p, ofLists specifications styles rules = .ok p) ↔
      (specifications.map (·.id)).Nodup ∧ (styles.map (·.id)).Nodup ∧
        ∀ rule ∈ rules, rule.IsListed (specifications.map (·.id)) (styles.map (·.id)) := by
  constructor
  · rintro ⟨p, hp⟩
    obtain ⟨rfl, rfl, rfl⟩ := of_ofLists_eq_ok hp
    exact ⟨p.specificationIds_nodup, p.styleIds_nodup, p.rules_listed⟩
  · rintro ⟨hspecifications, hstyles, hrules⟩
    obtain ⟨p, hp, -⟩ := exists_ofLists_eq_ok hspecifications hstyles hrules
    exact ⟨p, hp⟩

/-- The check looks for a repeated specification, then for a repeated style, then for a rule that is
not listed. -/
theorem ofLists_eq_error_iff_or {e : RuleSetError} :
    ofLists specifications styles rules = .error e ↔
      (∃ id, firstRepeat? [] (specifications.map (·.id)) = some id ∧ .duplicateSpecification id = e) ∨
      firstRepeat? [] (specifications.map (·.id)) = none ∧
        ((∃ id, firstRepeat? [] (styles.map (·.id)) = some id ∧ .duplicateStyle id = e) ∨
        firstRepeat? [] (styles.map (·.id)) = none ∧
          locateFrom specifications styles 0 rules = .error e) := by
  unfold ofLists
  split
  · rename_i hspecification
    simp [hspecification]
  · rename_i hspecification
    split
    · rename_i hstyle
      simp [hspecification, hstyle]
    · rename_i hstyle
      split
      · rename_i hrule
        simp [hspecification, hstyle, hrule]
      · rename_i hrule
        simp [hspecification, hstyle, hrule]

/-- What is reported is the first thing wrong with the lists. -/
theorem ofLists_eq_error_iff {e : RuleSetError} :
    ofLists specifications styles rules = .error e ↔
      FirstFault specifications styles rules e := by
  rw [ofLists_eq_error_iff_or]
  simp only [firstRepeat?_nil_eq_some_iff, firstRepeat?_nil_eq_none_iff, locateFrom_eq_error_iff,
    Nat.zero_add]
  constructor
  · rintro (⟨id, hrepeat, rfl⟩ | ⟨hspecifications, ⟨id, hrepeat, rfl⟩ |
      ⟨hstyles, before, rule, after, hrules, hbefore, hfault⟩⟩)
    · exact .duplicateSpecification hrepeat
    · exact .duplicateStyle hspecifications hrepeat
    · exact .dangling hspecifications hstyles hrules hbefore hfault
  · intro h
    cases h with
    | duplicateSpecification hrepeat => exact Or.inl ⟨_, hrepeat, rfl⟩
    | duplicateStyle hspecifications hrepeat =>
      exact Or.inr ⟨hspecifications, Or.inl ⟨_, hrepeat, rfl⟩⟩
    | dangling hspecifications hstyles hrules hbefore hfault =>
      exact Or.inr ⟨hspecifications, Or.inr ⟨hstyles, _, _, _, hrules, hbefore, hfault⟩⟩

/-! ## Looking rules up -/

variable {p : RuleSet} {symbol : Symbol}

/-- These are the specification and the style that have the ids of the rule, and its severity. -/
structure Resolves (p : RuleSet) (rule : Rule) (r : ResolvedRule) : Prop where
  specification_mem : r.specification ∈ p.specifications
  specification_id : r.specification.id = rule.specificationId
  style_mem : r.style ∈ p.styles
  style_id : r.style.id = rule.styleId
  severity : r.severity = rule.severity

theorem resolve?_eq_some_iff {rule : Rule} {r : ResolvedRule} :
    p.resolve? rule = some r ↔ p.Resolves rule r := by
  constructor
  · intro h
    obtain ⟨specification, hspecification, h⟩ := Option.bind_eq_some_iff.1 h
    obtain ⟨style, hstyle, rfl⟩ := Option.map_eq_some_iff.1 h
    exact ⟨List.mem_of_find?_eq_some hspecification, by simpa using List.find?_some hspecification,
      List.mem_of_find?_eq_some hstyle, by simpa using List.find?_some hstyle, rfl⟩
  · rintro ⟨hspecification, hspecificationId, hstyle, hstyleId, hseverity⟩
    rw [p.resolve?_eq_some hspecification hstyle hspecificationId.symm hstyleId.symm, ← hseverity]

/-- The specification of the rule applies to the symbol. -/
def Concerns (p : RuleSet) (rule : Rule) (symbol : Symbol) : Prop :=
  ∃ s ∈ p.specifications, s.id = rule.specificationId ∧ s.appliesTo symbol = true

theorem Resolves.concerns_iff {rule : Rule} {r : ResolvedRule} (h : p.Resolves rule r) :
    p.Concerns rule symbol ↔ r.specification.appliesTo symbol = true := by
  constructor
  · rintro ⟨s, hs, hid, happlies⟩
    have hsame : s = r.specification :=
      List.inj_on_of_nodup_map p.specificationIds_nodup hs h.specification_mem
        (hid.trans h.specification_id.symm)
    rwa [← hsame]
  · intro happlies
    exact ⟨r.specification, h.specification_mem, h.specification_id, happlies⟩

/-- What a rule of the rule set is resolved to is chosen if its specification applies. -/
theorem any_resolve?_iff {rule : Rule} (h : rule ∈ p.rules) :
    (p.resolve? rule).any (fun r => r.specification.appliesTo symbol) = true ↔
      p.Concerns rule symbol := by
  obtain ⟨r, hr⟩ := Option.isSome_iff_exists.1 (p.resolve?_isSome h)
  rw [hr, (resolve?_eq_some_iff.1 hr).concerns_iff, Option.any_some]

/-- The symbol is governed by what the first rule refers to that concerns it. -/
theorem governingRule?_eq_some_iff {r : ResolvedRule} :
    p.governingRule? symbol = some r ↔
      ∃ before rule after, p.rules = before ++ rule :: after ∧ p.Resolves rule r ∧
        p.Concerns rule symbol ∧ ∀ q ∈ before, ¬ p.Concerns q symbol := by
  rw [governingRule?, resolvedRules_eq, List.find?_filterMap, Option.bind_eq_some_iff]
  simp only [List.find?_eq_some_iff_append, resolve?_eq_some_iff, Bool.not_eq_true']
  constructor
  · rintro ⟨rule, ⟨hrule, before, after, hrules, hbefore⟩, hresolves⟩
    have hmem : ∀ q ∈ before ++ rule :: after, q ∈ p.rules := fun q hq => by rwa [hrules]
    refine ⟨before, rule, after, hrules, hresolves, (any_resolve?_iff (hmem rule (by simp))).1 hrule,
      fun q hq hconcerns => ?_⟩
    rw [← any_resolve?_iff (hmem q (List.mem_append_left _ hq)), hbefore q hq] at hconcerns
    cases hconcerns
  · rintro ⟨before, rule, after, hrules, hresolves, hconcerns, hbefore⟩
    have hmem : ∀ q ∈ before ++ rule :: after, q ∈ p.rules := fun q hq => by rwa [hrules]
    refine ⟨rule, ⟨(any_resolve?_iff (hmem rule (by simp))).2 hconcerns, before, after, hrules,
      fun q hq => ?_⟩, hresolves⟩
    have hnot := hbefore q hq
    rwa [← any_resolve?_iff (hmem q (List.mem_append_left _ hq)), Bool.not_eq_true] at hnot

theorem governingRule?_eq_none_iff :
    p.governingRule? symbol = none ↔ ∀ rule ∈ p.rules, ¬ p.Concerns rule symbol := by
  rw [governingRule?, resolvedRules_eq, List.find?_filterMap, Option.bind_eq_none_iff]
  constructor
  · intro h rule hrule hconcerns
    have hfound : (p.rules.find? fun q =>
        (p.resolve? q).any fun r => r.specification.appliesTo symbol).isSome = true :=
      List.find?_isSome.2 ⟨rule, hrule, (any_resolve?_iff hrule).2 hconcerns⟩
    obtain ⟨first, hfirst⟩ := Option.isSome_iff_exists.1 hfound
    have hsome := p.resolve?_isSome (List.mem_of_find?_eq_some hfirst)
    rw [h first hfirst] at hsome
    cases hsome
  · intro h rule hfirst
    have hany := List.find?_some hfirst
    have hrule := List.mem_of_find?_eq_some hfirst
    exact absurd ((any_resolve?_iff hrule).1 hany) (h rule hrule)

/-- What is kept for the rules is what their ids refer to. -/
theorem resolves_resolvedRules (p : RuleSet) : List.Forall₂ p.Resolves p.rules p.resolvedRules := by
  rw [resolvedRules_eq]
  have hall : ∀ rules ⊆ p.rules, List.Forall₂ p.Resolves rules (rules.filterMap p.resolve?) := by
    intro rules hrules
    induction rules with
    | nil => exact .nil
    | cons rule rules ih =>
      obtain ⟨hrule, hrules⟩ := List.cons_subset.1 hrules
      obtain ⟨r, hr⟩ := Option.isSome_iff_exists.1 (p.resolve?_isSome hrule)
      rw [List.filterMap_cons_some hr]
      exact .cons (resolve?_eq_some_iff.1 hr) (ih hrules)
  exact hall p.rules (List.Subset.refl _)

/-- Every rule has its places, and something stands there. -/
theorem zipWith_atPlaces?_eq_map_some (p : RuleSet) :
    List.zipWith p.atPlaces? p.rules p.references = p.resolvedRules.map some := by
  rw [zipWith_atPlaces?_references, resolvedRules_eq,
    List.map_filterMap_some_eq_filter_map_isSome, List.filter_eq_self.2]
  intro o ho
  obtain ⟨rule, hrule, rfl⟩ := List.mem_map.1 ho
  exact p.resolve?_isSome hrule

/-! ## The whole -/

/-- Symbols are governed by the first rule that concerns them. No place that is kept for a rule is beyond
the end of its list, and at the places stands what the ids of the rule refer to. -/
structure LooksUp (p : RuleSet) : Prop where
  some_iff : ∀ symbol r, p.governingRule? symbol = some r ↔
    ∃ before rule after, p.rules = before ++ rule :: after ∧ p.Resolves rule r ∧
      p.Concerns rule symbol ∧ ∀ q ∈ before, ¬ p.Concerns q symbol
  none_iff : ∀ symbol, p.governingRule? symbol = none ↔
    ∀ rule ∈ p.rules, ¬ p.Concerns rule symbol
  places_lt : ∀ places ∈ p.references,
    places.1 < p.specifications.length ∧ places.2 < p.styles.length
  places : List.zipWith p.atPlaces? p.rules p.references = p.resolvedRules.map some
  resolved : List.Forall₂ p.Resolves p.rules p.resolvedRules

theorem looksUp (p : RuleSet) : p.LooksUp where
  some_iff := fun _ _ => governingRule?_eq_some_iff
  none_iff := fun _ => governingRule?_eq_none_iff
  places_lt := fun _ => p.lt_of_mem_references
  places := p.zipWith_atPlaces?_eq_map_some
  resolved := p.resolves_resolvedRules

/-- Lists make a rule set exactly if ids are not repeated and all references are listed, and
otherwise the first thing wrong with them is reported. In the rule set of the lists the first rule
that concerns a symbol governs it. -/
theorem ofLists_spec (specifications : List Specification) (styles : List Style)
    (rules : List Rule) :
    ((∃ p, ofLists specifications styles rules = .ok p) ↔
      (specifications.map (·.id)).Nodup ∧ (styles.map (·.id)).Nodup ∧
        ∀ rule ∈ rules, rule.IsListed (specifications.map (·.id)) (styles.map (·.id))) ∧
    (∀ e, ofLists specifications styles rules = .error e ↔
      FirstFault specifications styles rules e) ∧
    ∀ p, ofLists specifications styles rules = .ok p →
      p.specifications = specifications ∧ p.styles = styles ∧ p.rules = rules ∧ p.LooksUp := by
  refine ⟨exists_ofLists_eq_ok_iff, fun e => ofLists_eq_error_iff, fun p hp => ?_⟩
  obtain ⟨hspecifications, hstyles, hrules⟩ := of_ofLists_eq_ok hp
  exact ⟨hspecifications, hstyles, hrules, p.looksUp⟩

/-- A specification of fields and one of all symbols. -/
def nestedSpecifications : List Specification :=
  [{ id := .ofNat 1, name := "all".toList },
    { id := .ofNat 2, name := "fields".toList, kinds := [.field] }]

/-- A rule for fields, and behind it one for all symbols. -/
def nestedRules : List Rule :=
  [⟨.ofNat 2, camelStyle.id, .warning⟩, ⟨.ofNat 1, pascalStyle.id, .error⟩]

/-- With both styles the rules make a rule set in which the first governs fields. Where the style of
the first is listed twice, this is reported, and not that the second rule refers to nothing. -/
theorem ofLists_spec_nested :
    (∃ p, ofLists nestedSpecifications [camelStyle, pascalStyle] nestedRules = .ok p ∧
      p.rules = nestedRules ∧ p.LooksUp ∧
      (p.governingRule? { kind := .field }).map (·.style) = some camelStyle) ∧
    FirstFault nestedSpecifications [camelStyle, camelStyle] nestedRules
      (.duplicateStyle camelStyle.id) := by
  refine ⟨⟨⟨nestedSpecifications, [camelStyle, pascalStyle], nestedRules, [(1, 0), (0, 1)],
    by decide, by decide, by decide⟩, by decide +kernel, rfl, ?_, by decide +kernel⟩, ?_⟩
  · obtain ⟨-, -, hok⟩ := ofLists_spec nestedSpecifications [camelStyle, pascalStyle] nestedRules
    exact (hok _ (by decide +kernel)).2.2.2
  · obtain ⟨-, herror, -⟩ := ofLists_spec nestedSpecifications [camelStyle, camelStyle] nestedRules
    exact (herror _).1 (by decide +kernel)

end RuleSet

end Nomenclator
