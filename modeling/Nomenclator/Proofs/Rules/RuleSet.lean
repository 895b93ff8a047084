import Mathlib.Data.List.Forall2
import Nomenclator.Rules.RuleSet

/-!
# Rule sets made of lists

Lists without repeated ids and without dangling references make a rule set that holds just these lists
(`exists_ofLists_eq_ok`), and the lists of a rule set make it again (`ofLists_self`).

The places that a rule set keeps are the places of the ids of its rules (`locates_references`). So what
stands there is what the ids refer to (`zipWith_atPlaces?_references`), and looking rules up by place is
looking them up by id (`resolvedRules_eq`).
-/

namespace Nomenclator

/-- An entry is found by its key where no two entries share one. -/
theorem find?_eq_some_of_nodup {α κ : Type} [DecidableEq κ] {key : α → κ} {l : List α}
    (h : (l.map key).Nodup) {a : α} (ha : a ∈ l) : l.find? (fun b => key b = key a) = some a := by
  induction l with
  | nil => cases ha
  | cons b l ih =>
    obtain ⟨hb, hl⟩ := List.nodup_cons.1 h
    by_cases hkey : key b = key a
    · rcases List.mem_cons.1 ha with rfl | ha
      · simp
      · exact absurd (List.mem_map.2 ⟨a, ha, hkey.symm⟩) hb
    · rcases List.mem_cons.1 ha with rfl | ha
      · exact absurd rfl hkey
      · rw [List.find?_cons_of_neg (by simpa using hkey), ih hl ha]

/-- Every entry of the second of two related lists has one in the first. -/
theorem exists_mem_of_forall₂ {α β : Type} {R : α → β → Prop} {l : List α} {m : List β}
    (h : List.Forall₂ R l m) {b : β} (hb : b ∈ m) : ∃ a ∈ l, R a b := by
  induction h with
  | nil => cases hb
  | cons hr _ ih =>
    rcases List.mem_cons.1 hb with rfl | hb
    · exact ⟨_, List.mem_cons_self, hr⟩
    · obtain ⟨a, ha, hab⟩ := ih hb
      exact ⟨a, List.mem_cons_of_mem _ ha, hab⟩

/-! ## Places -/

/-- Both ids of the rule are listed. -/
def Rule.IsListed (specificationIds styleIds : List Uuid) (rule : Rule) : Prop :=
  rule.specificationId ∈ specificationIds ∧ rule.styleId ∈ styleIds

/-- These are the places of the first specification and of the first style with the ids of the rule. -/
structure Rule.Locates (specifications : List Specification) (styles : List Style) (rule : Rule)
    (places : Nat × Nat) : Prop where
  specification : specifications.findIdx? (fun s => s.id = rule.specificationId) = some places.1
  style : styles.findIdx? (fun s => s.id = rule.styleId) = some places.2

section Places

variable {specifications : List Specification} {styles : List Style} {rule : Rule}
  {rules : List Rule} {places : Nat × Nat} {references : List (Nat × Nat)}

/-- An id has a place exactly if it is listed. -/
theorem findIdx?_id_isSome_iff {α : Type} {id : α → Uuid} {l : List α} {x : Uuid} :
    (l.findIdx? fun a => id a = x).isSome = true ↔ x ∈ l.map id := by
  simp [List.findIdx?_isSome]

theorem findIdx?_id_eq_none_iff {α : Type} {id : α → Uuid} {l : List α} {x : Uuid} :
    (l.findIdx? fun a => id a = x) = none ↔ x ∉ l.map id := by
  rw [← findIdx?_id_isSome_iff, Option.isSome_iff_ne_none, Classical.not_not]

theorem mem_of_findIdx?_id_eq_some {α : Type} {id : α → Uuid} {l : List α} {x : Uuid} {i : Nat}
    (h : (l.findIdx? fun a => id a = x) = some i) : x ∈ l.map id :=
  findIdx?_id_isSome_iff.1 (Option.isSome_iff_exists.2 ⟨i, h⟩)

theorem Rule.locate_eq_ok_iff {index : Nat} :
    rule.locate specifications styles index = .ok places ↔
      rule.Locates specifications styles places := by
  unfold Rule.locate
  split
  · rename_i hspecification
    refine iff_of_false (fun h => by cases h) fun h => ?_
    rw [h.specification] at hspecification
    cases hspecification
  · rename_i i hspecification
    split
    · rename_i hstyle
      refine iff_of_false (fun h => by cases h) fun h => ?_
      rw [h.style] at hstyle
      cases hstyle
    · rename_i j hstyle
      constructor
      · intro h
        cases h
        exact ⟨hspecification, hstyle⟩
      · rintro ⟨hi, hj⟩
        rw [hspecification] at hi
        rw [hstyle] at hj
        cases hi
        cases hj
        rfl

theorem Rule.exists_locate_eq_ok_iff (index : Nat) :
    (∃ places, rule.locate specifications styles index = .ok places) ↔
      rule.IsListed (specifications.map (·.id)) (styles.map (·.id)) := by
  simp only [Rule.locate_eq_ok_iff, Rule.IsListed, ← findIdx?_id_isSome_iff,
    Option.isSome_iff_exists]
  constructor
  · rintro ⟨places, hspecification, hstyle⟩
    exact ⟨⟨_, hspecification⟩, ⟨_, hstyle⟩⟩
  · rintro ⟨⟨i, hi⟩, ⟨j, hj⟩⟩
    exact ⟨(i, j), hi, hj⟩

/-- The places that are found are the places of the rules, one after the other. -/
theorem locateFrom_eq_ok_iff {index : Nat} :
    locateFrom specifications styles index rules = .ok references ↔
      List.Forall₂ (Rule.Locates specifications styles) rules references := by
  induction rules generalizing index references with
  | nil =>
    rw [locateFrom, List.forall₂_nil_left_iff]
    constructor
    · intro h
      cases h
      rfl
    · rintro rfl
      rfl
  | cons rule rules ih =>
    rw [List.forall₂_cons_left_iff, locateFrom]
    constructor
    · intro h
      split at h
      · cases h
      · rename_i places hplaces
        cases hrest : locateFrom specifications styles (index + 1) rules with
        | error e =>
          rw [hrest] at h
          cases h
        | ok rest =>
          rw [hrest] at h
          cases h
          exact ⟨places, rest, Rule.locate_eq_ok_iff.1 hplaces, ih.1 hrest, rfl⟩
    · rintro ⟨places, rest, hplaces, hrest, rfl⟩
      rw [Rule.locate_eq_ok_iff.2 hplaces, ih.2 hrest]
      rfl

theorem exists_locateFrom_eq_ok
    (h : ∀ rule ∈ rules, rule.IsListed (specifications.map (·.id)) (styles.map (·.id)))
    (index : Nat) :
    ∃ references, locateFrom specifications styles index rules = .ok references := by
  induction rules generalizing index with
  | nil => exact ⟨[], rfl⟩
  | cons rule rules ih =>
    obtain ⟨hrule, hrules⟩ := List.forall_mem_cons.1 h
    obtain ⟨places, hplaces⟩ := (Rule.exists_locate_eq_ok_iff index).2 hrule
    obtain ⟨rest, hrest⟩ := ih hrules (index + 1)
    refine ⟨places :: rest, ?_⟩
    rw [locateFrom, hplaces, hrest]
    rfl

end Places

namespace RuleSet

variable {specifications : List Specification} {styles : List Style} {rules : List Rule}

/-! ## Rule sets and lists -/

/-- The lists of a rule set make it. -/
theorem ofLists_self (p : RuleSet) : ofLists p.specifications p.styles p.rules = .ok p := by
  have hspec : firstRepeat? [] (p.specifications.map (·.id)) = none :=
    firstRepeat?_eq_none_iff.2 ⟨p.specificationIds_nodup, by simp⟩
  have hstyle : firstRepeat? [] (p.styles.map (·.id)) = none :=
    firstRepeat?_eq_none_iff.2 ⟨p.styleIds_nodup, by simp⟩
  unfold ofLists
  split
  · rename_i id h
    rw [hspec] at h
    cases h
  · split
    · rename_i id h
      rw [hstyle] at h
      cases h
    · split
      · rename_i e h
        rw [p.references_located] at h
        cases h
      · rename_i references h
        rw [p.references_located] at h
        cases h
        rfl

theorem exists_ofLists_eq_ok (hspecifications : (specifications.map (·.id)).Nodup)
    (hstyles : (styles.map (·.id)).Nodup)
    (hrules : ∀ rule ∈ rules, rule.IsListed (specifications.map (·.id)) (styles.map (·.id))) :
    ∃ p, ofLists specifications styles rules = .ok p ∧ p.specifications = specifications ∧
      p.styles = styles ∧ p.rules = rules := by
  obtain ⟨references, hreferences⟩ := exists_locateFrom_eq_ok hrules 0
  let p : RuleSet :=
    { specifications, styles, rules, references
      specificationIds_nodup := hspecifications
      styleIds_nodup := hstyles
      references_located := hreferences }
  exact ⟨p, p.ofLists_self, rfl, rfl, rfl⟩

/-- The rule set that the lists make holds the lists. -/
theorem of_ofLists_eq_ok {p : RuleSet} (h : ofLists specifications styles rules = .ok p) :
    p.specifications = specifications ∧ p.styles = styles ∧ p.rules = rules := by
  unfold ofLists at h
  split at h
  · cases h
  · split at h
    · cases h
    · split at h
      · cases h
      · cases h
        exact ⟨rfl, rfl, rfl⟩

/-! ## The places of specifications and styles -/

/-- The places kept for the rules are the places of their ids. -/
theorem locates_references (p : RuleSet) :
    List.Forall₂ (Rule.Locates p.specifications p.styles) p.rules p.references :=
  locateFrom_eq_ok_iff.1 p.references_located

/-- No rule refers to an id that is not listed. -/
theorem rules_listed (p : RuleSet) :
    ∀ rule ∈ p.rules, rule.IsListed (p.specifications.map (·.id)) (p.styles.map (·.id)) := by
  intro rule hrule
  obtain ⟨places, -, hplaces⟩ := exists_mem_of_forall₂ p.locates_references.flip hrule
  exact (Rule.exists_locate_eq_ok_iff 0).1 ⟨places, Rule.locate_eq_ok_iff.2 hplaces⟩

/-- What stands at places is listed. -/
theorem mem_of_mem_resolvedRules {p : RuleSet} {r : ResolvedRule} (h : r ∈ p.resolvedRules) :
    r.specification ∈ p.specifications ∧ r.style ∈ p.styles := by
  obtain ⟨⟨rule, places⟩, -, hplaces⟩ := List.mem_filterMap.1 h
  obtain ⟨specification, hspecification, hmap⟩ := Option.bind_eq_some_iff.1 hplaces
  obtain ⟨style, hstyle, rfl⟩ := Option.map_eq_some_iff.1 hmap
  exact ⟨List.mem_of_getElem? hspecification, List.mem_of_getElem? hstyle⟩

/-- The rule with what its ids refer to. -/
def resolve? (p : RuleSet) (rule : Rule) : Option ResolvedRule :=
  (p.specifications.find? fun s => s.id = rule.specificationId).bind fun specification =>
    (p.styles.find? fun s => s.id = rule.styleId).map fun style =>
      { specification, style, severity := rule.severity }

theorem resolve?_eq_some (p : RuleSet) {rule : Rule} {specification : Specification}
    {style : Style} (hspecification : specification ∈ p.specifications) (hstyle : style ∈ p.styles)
    (hspecificationId : rule.specificationId = specification.id)
    (hstyleId : rule.styleId = style.id) :
    p.resolve? rule = some ⟨specification, style, rule.severity⟩ := by
  rw [resolve?, hspecificationId, hstyleId,
    find?_eq_some_of_nodup p.specificationIds_nodup hspecification,
    find?_eq_some_of_nodup p.styleIds_nodup hstyle]
  rfl

/-- Every rule of a rule set resolves. -/
theorem resolve?_isSome (p : RuleSet) {rule : Rule} (h : rule ∈ p.rules) :
    (p.resolve? rule).isSome = true := by
  obtain ⟨hspec, hstyle⟩ := p.rules_listed rule h
  obtain ⟨s, hs, hsid⟩ := List.mem_map.1 hspec
  obtain ⟨t, ht, htid⟩ := List.mem_map.1 hstyle
  rw [p.resolve?_eq_some hs ht hsid.symm htid.symm, Option.isSome_some]

/-- What stands at the places of the ids is what the ids refer to. -/
theorem atPlaces?_eq_resolve? (p : RuleSet) {rule : Rule} {places : Nat × Nat}
    (h : rule.Locates p.specifications p.styles places) :
    p.atPlaces? rule places = p.resolve? rule := by
  rw [resolve?, List.find?_eq_bind_findIdx?_getElem?, List.find?_eq_bind_findIdx?_getElem?,
    h.specification, h.style]
  rfl

/-- No place is beyond the end of its list. -/
theorem lt_of_mem_references (p : RuleSet) {places : Nat × Nat} (h : places ∈ p.references) :
    places.1 < p.specifications.length ∧ places.2 < p.styles.length := by
  obtain ⟨rule, -, hplaces⟩ := exists_mem_of_forall₂ p.locates_references h
  exact ⟨(List.findIdx?_eq_some_iff_getElem.1 hplaces.specification).1,
    (List.findIdx?_eq_some_iff_getElem.1 hplaces.style).1⟩

/-- What stands at the places kept for the rules is what their ids refer to. -/
theorem zipWith_atPlaces?_references (p : RuleSet) :
    List.zipWith p.atPlaces? p.rules p.references = p.rules.map p.resolve? := by
  have hall : ∀ rules references,
      List.Forall₂ (Rule.Locates p.specifications p.styles) rules references →
        List.zipWith p.atPlaces? rules references = rules.map p.resolve? := by
    intro rules references h
    induction h with
    | nil => rfl
    | cons hrule _ ih =>
      rw [List.zipWith_cons_cons, List.map_cons, ih, p.atPlaces?_eq_resolve? hrule]
  exact hall _ _ p.locates_references

/-- To look rules up by place is to look them up by id. -/
theorem resolvedRules_eq (p : RuleSet) : p.resolvedRules = p.rules.filterMap p.resolve? := by
  have hzip : p.resolvedRules = (List.zipWith p.atPlaces? p.rules p.references).filterMap id := by
    rw [resolvedRules, ← List.map_uncurry_zip_eq_zipWith, List.filterMap_map]
    rfl
  rw [hzip, zipWith_atPlaces?_references, List.filterMap_map]
  rfl

end RuleSet

end Nomenclator
