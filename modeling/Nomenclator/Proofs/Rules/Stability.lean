import Nomenclator.Proofs.Rules.Lookup
import Nomenclator.Rules.Checking

/-!
# Rule sets that are rearranged or extended

A rule refers to its specification and its style by id, so the order in which these are listed cannot
be seen: a rule resolves to the listed specification and the listed style that have its ids, wherever
they stand (`RuleSet.resolve?_congr`). The order of the rules can be seen, but a rule that is put in
reaches no farther than the symbols that it concerns and that no rule before it does. It governs
these, and everything else stays as it was (`RuleSet.perm_and_insertIdx_spec`).

The rules before the new one, the new one and the rules behind it are searched in turn
(`RuleSet.chosenFrom?_append`), and the rules resolve alike with the new one and without it.
-/

namespace Nomenclator

/-- A list with an entry put in at a place. -/
theorem insertIdx_eq_take_append {α : Type} {l : List α} {i : Nat} (h : i ≤ l.length) (a : α) :
    l.insertIdx i a = l.take i ++ a :: l.drop i := by
  obtain ⟨before, behind, hl, hlength, hinsert⟩ := List.exists_of_modifyTailIdx (List.cons a) h
  rw [List.insertIdx, hinsert, hl, List.take_left' hlength, List.drop_left' hlength]

namespace RuleSet

variable {p q : RuleSet} {symbol : Symbol}

/-! ## What can be seen of a rule set -/

/-- The two rule sets name the symbol alike: the same rule governs it, if any does, and the same
names are accepted, reported and offered instead. -/
structure AgreesOn (p q : RuleSet) (symbol : Symbol) : Prop where
  governingRule? : q.governingRule? symbol = p.governingRule? symbol
  styleFor : q.styleFor symbol = p.styleFor symbol
  checkName : ∀ name, q.checkName symbol name = p.checkName symbol name
  compliantNames : ∀ name, q.compliantNames symbol name = p.compliantNames symbol name

/-- All else that is said of a symbol follows from the rule that governs it. -/
theorem agreesOn_of_governingRule?_eq (h : q.governingRule? symbol = p.governingRule? symbol) :
    p.AgreesOn q symbol := by
  have hstyle : q.styleFor symbol = p.styleFor symbol := by
    rw [RuleSet.styleFor, RuleSet.styleFor, h]
  refine ⟨h, hstyle, fun name => ?_, fun name => ?_⟩
  · rw [RuleSet.checkName, RuleSet.checkName, h]
  · rw [RuleSet.compliantNames, RuleSet.compliantNames, hstyle]

/-! ## Specifications and styles in another order -/

/-- What a rule resolves to depends on which specifications and styles are listed, and not on where
they stand. -/
theorem resolve?_congr (hspecifications : ∀ s, s ∈ q.specifications ↔ s ∈ p.specifications)
    (hstyles : ∀ s, s ∈ q.styles ↔ s ∈ p.styles) : q.resolve? = p.resolve? := by
  funext rule
  refine Option.ext fun r => ?_
  rw [resolve?_eq_some_iff, resolve?_eq_some_iff]
  constructor
  · rintro ⟨hspecification, hspecificationId, hstyle, hstyleId, hseverity⟩
    exact ⟨(hspecifications _).1 hspecification, hspecificationId, (hstyles _).1 hstyle, hstyleId,
      hseverity⟩
  · rintro ⟨hspecification, hspecificationId, hstyle, hstyleId, hseverity⟩
    exact ⟨(hspecifications _).2 hspecification, hspecificationId, (hstyles _).2 hstyle, hstyleId,
      hseverity⟩

/-- The lists of a rule set in another order make a rule set that names every symbol alike. -/
theorem exists_agreesOn_of_perm (p : RuleSet) {specifications : List Specification}
    {styles : List Style} (hspecifications : specifications.Perm p.specifications)
    (hstyles : styles.Perm p.styles) :
    ∃ q, ofLists specifications styles p.rules = .ok q ∧ ∀ symbol, p.AgreesOn q symbol := by
  have hlisted : ∀ rule ∈ p.rules,
      rule.IsListed (specifications.map (·.id)) (styles.map (·.id)) := by
    intro rule hrule
    obtain ⟨hspecification, hstyle⟩ := p.rules_listed rule hrule
    exact ⟨(hspecifications.map _).mem_iff.2 hspecification, (hstyles.map _).mem_iff.2 hstyle⟩
  obtain ⟨q, hq⟩ := exists_ofLists_eq_ok_iff.2
    ⟨(hspecifications.map _).nodup_iff.2 p.specificationIds_nodup,
      (hstyles.map _).nodup_iff.2 p.styleIds_nodup, hlisted⟩
  obtain ⟨hspecifications', hstyles', hrules⟩ := of_ofLists_eq_ok hq
  refine ⟨q, hq, fun symbol => agreesOn_of_governingRule?_eq ?_⟩
  have hresolve : q.resolve? = p.resolve? :=
    resolve?_congr (fun s => by rw [hspecifications', hspecifications.mem_iff])
      (fun s => by rw [hstyles', hstyles.mem_iff])
  rw [RuleSet.governingRule?, RuleSet.governingRule?, resolvedRules_eq, resolvedRules_eq, hrules,
    hresolve]

/-! ## One more rule -/

/-- What the first of these rules that concerns the symbol resolves to. -/
def chosenFrom? (p : RuleSet) (symbol : Symbol) (rules : List Rule) : Option ResolvedRule :=
  (rules.filterMap p.resolve?).find? fun r => r.specification.appliesTo symbol

theorem governingRule?_eq_chosenFrom? (p : RuleSet) (symbol : Symbol) :
    p.governingRule? symbol = p.chosenFrom? symbol p.rules := by
  rw [RuleSet.governingRule?, resolvedRules_eq]
  rfl

theorem chosenFrom?_append (p : RuleSet) (symbol : Symbol) (before behind : List Rule) :
    p.chosenFrom? symbol (before ++ behind) =
      (p.chosenFrom? symbol before).or (p.chosenFrom? symbol behind) := by
  rw [chosenFrom?, List.filterMap_append, List.find?_append]
  rfl

/-- A rule that concerns the symbol is chosen in front of all others. -/
theorem chosenFrom?_cons_of_concerns {rule : Rule} {r : ResolvedRule} (hr : p.Resolves rule r)
    (h : p.Concerns rule symbol) (rules : List Rule) :
    p.chosenFrom? symbol (rule :: rules) = some r := by
  have happlies : r.specification.appliesTo symbol = true := hr.concerns_iff.1 h
  rw [chosenFrom?, List.filterMap_cons_some (resolve?_eq_some_iff.2 hr)]
  simp only [List.find?_cons, happlies]

theorem chosenFrom?_cons_of_not_concerns {rule : Rule} {r : ResolvedRule} (hr : p.Resolves rule r)
    (h : ¬ p.Concerns rule symbol) (rules : List Rule) :
    p.chosenFrom? symbol (rule :: rules) = p.chosenFrom? symbol rules := by
  have happlies : r.specification.appliesTo symbol = false := by
    rwa [hr.concerns_iff, Bool.not_eq_true] at h
  rw [chosenFrom?, List.filterMap_cons_some (resolve?_eq_some_iff.2 hr)]
  simp only [List.find?_cons, happlies, chosenFrom?]

/-- Nothing is chosen exactly if none of the rules concerns the symbol. -/
theorem chosenFrom?_eq_none_iff {rules : List Rule} (hrules : rules ⊆ p.rules) :
    p.chosenFrom? symbol rules = none ↔ ∀ rule ∈ rules, ¬ p.Concerns rule symbol := by
  rw [chosenFrom?, List.find?_eq_none]
  constructor
  · intro h rule hrule hconcerns
    obtain ⟨r, hr⟩ := Option.isSome_iff_exists.1 (p.resolve?_isSome (hrules hrule))
    exact h r (List.mem_filterMap.2 ⟨rule, hrule, hr⟩)
      ((resolve?_eq_some_iff.1 hr).concerns_iff.1 hconcerns)
  · intro h r hr happlies
    obtain ⟨rule, hrule, hresolve⟩ := List.mem_filterMap.1 hr
    exact h rule hrule ((resolve?_eq_some_iff.1 hresolve).concerns_iff.2 happlies)

/-- The first rule set is the second with a rule put in behind some of its rules, as far as can be
seen: the new rule governs what it concerns and none of those do, and nothing else is changed. -/
structure Extends (q p : RuleSet) (before : List Rule) (rule : Rule) : Prop where
  taken : ∀ symbol, p.Concerns rule symbol → (∀ b ∈ before, ¬ p.Concerns b symbol) →
    ∃ r, p.Resolves rule r ∧ q.governingRule? symbol = some r
  /-- The new rule does not concern the symbol, or it comes too late. -/
  kept : ∀ symbol, ¬ (p.Concerns rule symbol ∧ ∀ b ∈ before, ¬ p.Concerns b symbol) →
    p.AgreesOn q symbol

/-- The cases are those of the search: a rule before the new one is chosen, or else the new one is, or
else one behind it, as if it were not there. -/
theorem extends_of_rules_eq {before behind : List Rule} {rule : Rule}
    (hspecifications : q.specifications = p.specifications) (hstyles : q.styles = p.styles)
    (hp : p.rules = before ++ behind) (hq : q.rules = before ++ rule :: behind) :
    q.Extends p before rule := by
  have hresolve : q.resolve? = p.resolve? :=
    resolve?_congr (fun s => by rw [hspecifications]) (fun s => by rw [hstyles])
  have hrule : rule ∈ q.rules := by simp [hq]
  obtain ⟨r, hr⟩ := Option.isSome_iff_exists.1 (q.resolve?_isSome hrule)
  rw [hresolve, resolve?_eq_some_iff] at hr
  have hbefore : before ⊆ p.rules := by
    rw [hp]
    exact List.subset_append_left before behind
  have hgoverned : ∀ symbol, q.governingRule? symbol =
      (p.chosenFrom? symbol before).or (p.chosenFrom? symbol (rule :: behind)) := by
    intro symbol
    rw [← chosenFrom?_append, ← hq, chosenFrom?, ← hresolve]
    exact q.governingRule?_eq_chosenFrom? symbol
  refine ⟨fun symbol hconcerns hnone => ⟨r, hr, ?_⟩, fun symbol hkept => ?_⟩
  · rw [hgoverned, (chosenFrom?_eq_none_iff hbefore).2 hnone, Option.none_or,
      chosenFrom?_cons_of_concerns hr hconcerns]
  · refine agreesOn_of_governingRule?_eq ?_
    rw [hgoverned, governingRule?_eq_chosenFrom? p, hp, chosenFrom?_append]
    cases hchosen : p.chosenFrom? symbol before with
    | some s => rfl
    | none =>
      have hnot : ¬ p.Concerns rule symbol := fun hconcerns =>
        hkept ⟨hconcerns, (chosenFrom?_eq_none_iff hbefore).1 hchosen⟩
      rw [chosenFrom?_cons_of_not_concerns hr hnot]

/-- A listed rule can be put in at any place. -/
theorem exists_extends_insertIdx (p : RuleSet) {rule : Rule}
    (hrule : rule.IsListed (p.specifications.map (·.id)) (p.styles.map (·.id))) {i : Nat}
    (hi : i ≤ p.rules.length) :
    ∃ q, ofLists p.specifications p.styles (p.rules.insertIdx i rule) = .ok q ∧
      q.Extends p (p.rules.take i) rule := by
  have hlisted : ∀ x ∈ p.rules.insertIdx i rule,
      x.IsListed (p.specifications.map (·.id)) (p.styles.map (·.id)) := by
    intro x hx
    rcases (List.mem_insertIdx hi).1 hx with rfl | hx
    · exact hrule
    · exact p.rules_listed x hx
  obtain ⟨q, hq⟩ := exists_ofLists_eq_ok_iff.2
    ⟨p.specificationIds_nodup, p.styleIds_nodup, hlisted⟩
  obtain ⟨hspecifications, hstyles, hrules⟩ := of_ofLists_eq_ok hq
  rw [insertIdx_eq_take_append hi] at hrules
  exact ⟨q, hq, extends_of_rules_eq hspecifications hstyles (List.take_append_drop i p.rules).symm
    hrules⟩

/-! ## The whole -/

/-- The order of specifications and of styles does not matter. A rule put in at some place changes
what governs a symbol only if it concerns it and no rule before that place does, and then it governs
the symbol. So a rule put in at the end changes nothing for a symbol that is governed already. -/
theorem perm_and_insertIdx_spec (p : RuleSet) :
    (∀ specifications styles, specifications.Perm p.specifications → styles.Perm p.styles →
      ∃ q, ofLists specifications styles p.rules = .ok q ∧ ∀ symbol, p.AgreesOn q symbol) ∧
    ∀ rule : Rule, rule.IsListed (p.specifications.map (·.id)) (p.styles.map (·.id)) →
      (∀ i ≤ p.rules.length,
        ∃ q, ofLists p.specifications p.styles (p.rules.insertIdx i rule) = .ok q ∧
          q.Extends p (p.rules.take i) rule) ∧
      ∃ q, ofLists p.specifications p.styles (p.rules ++ [rule]) = .ok q ∧
        ∀ symbol, (p.governingRule? symbol).isSome = true → p.AgreesOn q symbol := by
  refine ⟨fun specifications styles => p.exists_agreesOn_of_perm, fun rule hrule => ⟨?_, ?_⟩⟩
  · exact fun i hi => p.exists_extends_insertIdx hrule hi
  · obtain ⟨q, hq, hextends⟩ := p.exists_extends_insertIdx hrule (Nat.le_refl _)
    rw [List.insertIdx_length_self] at hq
    rw [List.take_length] at hextends
    refine ⟨q, hq, fun symbol hgoverned => hextends.kept symbol ?_⟩
    rintro ⟨-, hnone⟩
    rw [governingRule?_eq_none_iff.2 hnone] at hgoverned
    cases hgoverned

/-- A rule for methods in camel case. -/
def camelMethods : Rule := ⟨getterSpecification.id, camelStyle.id, .warning⟩

/-- The built-in conventions with their lists turned round, and with a rule for methods put in at the
front and at the end. At the front it governs methods, and at the end they keep their style. -/
theorem perm_and_insertIdx_spec_builtin :
    camelMethods.IsListed (builtin.specifications.map (·.id)) (builtin.styles.map (·.id)) ∧
    (∃ q, ofLists builtin.specifications.reverse builtin.styles.reverse builtin.rules = .ok q ∧
      ∀ symbol, builtin.AgreesOn q symbol) ∧
    (∃ q, ofLists builtin.specifications builtin.styles (builtin.rules.insertIdx 0 camelMethods) =
        .ok q ∧ q.Extends builtin [] camelMethods ∧
      (q.governingRule? { kind := .method }).map (·.style) = some camelStyle) ∧
    ∃ q, ofLists builtin.specifications builtin.styles (builtin.rules ++ [camelMethods]) = .ok q ∧
      (q.governingRule? { kind := .method }).map (·.style) = some getterStyle := by
  have hlisted :
      camelMethods.IsListed (builtin.specifications.map (·.id)) (builtin.styles.map (·.id)) :=
    ⟨by decide, by decide⟩
  obtain ⟨hperm, hinsert⟩ := perm_and_insertIdx_spec builtin
  obtain ⟨hinsert, happend⟩ := hinsert camelMethods hlisted
  refine ⟨hlisted, hperm _ _ (List.reverse_perm _) (List.reverse_perm _), ?_, ?_⟩
  · obtain ⟨q, hq, hextends⟩ := hinsert 0 (Nat.zero_le _)
    obtain ⟨r, hr, hgoverned⟩ := hextends.taken { kind := .method }
      ⟨getterSpecification, by decide, rfl, rfl⟩ (by simp)
    refine ⟨q, hq, hextends, ?_⟩
    have hstyle : r = ⟨getterSpecification, camelStyle, .warning⟩ :=
      Option.some.inj ((resolve?_eq_some_iff.2 hr).symm.trans (by decide +kernel))
    rw [hgoverned, hstyle]
    rfl
  · obtain ⟨q, hq, hagrees⟩ := happend
    refine ⟨q, hq, ?_⟩
    rw [(hagrees { kind := .method } (by decide +kernel)).governingRule?]
    exact builtin_governs { kind := .method }

end RuleSet

end Nomenclator
