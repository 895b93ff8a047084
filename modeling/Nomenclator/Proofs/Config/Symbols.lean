import Nomenclator.Proofs.Config.Meaning
import Nomenclator.Proofs.Rules.Lookup

/-!
# What a symbols group chooses

A symbols group lists kinds and visibilities as tokens, and tokens that nothing spells are passed
over. The specification that is built for the group chooses a symbol by the tokens that are left: the
kind of the symbol has to be among them, and its visibility, if it has one, among those of the other
list (`NamingConfig.read_appliesTo_iff`).

Where no token is left there is nothing to choose by, and the list is as good as none. So a token that
is passed over never makes a rule wider as long as some token beside it is recognized; a value of
unknown tokens only chooses everything (`NamingConfig.read_galacticWidgets_appliesTo`).
-/

namespace Nomenclator

/-! ## Tokens -/

namespace Vocabulary

variable {α : Type} [Vocabulary α] [DecidableEq α]

/-- The value stands for the member: it is the wildcard, one of its tokens spells the member, or none
of its tokens spells anything. -/
def Admits (value : Text) (a : α) : Prop :=
  Unicode.trim value = wildcard.toList ∨ (∃ token ∈ Text.splitOn ',' value, lookup? token = some a) ∨
    ∀ token ∈ Text.splitOn ',' value, (lookup? token : Option α) = none

theorem mem_parseMembers_iff (hentries : ∀ a : α, a ∈ (entries : List α)) {value : Text} {a : α} :
    a ∈ parseMembers value ↔ Unicode.trim value = wildcard.toList ∨
      ∃ token ∈ Text.splitOn ',' value, lookup? token = some a := by
  unfold parseMembers parseTokens parseTokensIn
  by_cases hwildcard : Unicode.trim value = wildcard.toList
  · rw [if_pos hwildcard]
    exact iff_of_true (hentries a) (Or.inl hwildcard)
  · rw [if_neg hwildcard]
    simp only [resolveEntries, mem_distinct, List.mem_filterMap, hwildcard, false_or]
    rfl

/-- A list of members is empty or holds the member exactly if the value that it is read from admits
the member. -/
theorem parseMembers_eq_nil_or_mem_iff (hentries : ∀ a : α, a ∈ (entries : List α)) {value : Text}
    {a : α} : (parseMembers value = ([] : List α) ∨ a ∈ parseMembers value) ↔ Admits value a := by
  constructor
  · rintro (hnil | hmem)
    · refine Or.inr (Or.inr fun token htoken => ?_)
      cases hlookup : (lookup? token : Option α) with
      | none => rfl
      | some b =>
        have hb : b ∈ (parseMembers value : List α) :=
          (mem_parseMembers_iff hentries).2 (Or.inr ⟨token, htoken, hlookup⟩)
        rw [hnil] at hb
        cases hb
    · rcases (mem_parseMembers_iff hentries).1 hmem with hwildcard | htoken
      · exact Or.inl hwildcard
      · exact Or.inr (Or.inl htoken)
  · rintro (hwildcard | htoken | hnone)
    · exact Or.inr ((mem_parseMembers_iff hentries).2 (Or.inl hwildcard))
    · exact Or.inr ((mem_parseMembers_iff hentries).2 (Or.inr htoken))
    · by_cases hwildcard : Unicode.trim value = wildcard.toList
      · exact Or.inr ((mem_parseMembers_iff hentries).2 (Or.inl hwildcard))
      · refine Or.inl (List.eq_nil_iff_forall_not_mem.2 fun b hb => ?_)
        obtain ⟨token, htoken, hb⟩ := ((mem_parseMembers_iff hentries).1 hb).resolve_left hwildcard
        rw [hnone token htoken] at hb
        cases hb

/-- An absent value admits every member. -/
theorem isEmpty_or_contains_iff (hentries : ∀ a : α, a ∈ (entries : List α)) {value? : Option Text}
    {a : α} {members : List α} (hmembers : members = (value?.map parseMembers).getD []) :
    (members.isEmpty || members.contains a) = true ↔
      ∀ value, value? = some value → Admits value a := by
  subst hmembers
  cases value? with
  | none => simp
  | some value => simp [← parseMembers_eq_nil_or_mem_iff hentries]

end Vocabulary

namespace Config

/-! ## Symbols groups -/

/-- The text chooses the symbol under the name of a symbols group. What the text does not say of the
group is no reason against the symbol, nor is a visibility that the symbol does not have. -/
structure Chooses (t name : Text) (symbol : Symbol) : Prop where
  kind : ∀ value, symbolsValue? t name "applicable_kinds" = some value →
    Vocabulary.Admits value symbol.kind
  accessibility : ∀ value, symbolsValue? t name "applicable_accessibilities" = some value →
    ∀ a, symbol.accessibility = some a → Vocabulary.Admits value a
  modifiers : ∀ value, symbolsValue? t name "required_modifiers" = some value →
    ∀ m ∈ Modifier.parseRequired value, symbol.modifiers.contains m = true

/-- A specification chooses what the text that describes it does. -/
theorem DescribesSpecification.appliesTo_iff {t name : Text} {x : Specification}
    (h : DescribesSpecification t name x) {symbol : Symbol} :
    x.appliesTo symbol = true ↔ Chooses t name symbol := by
  have hkind : x.acceptsKind symbol.kind = true ↔
      ∀ value, symbolsValue? t name "applicable_kinds" = some value →
        Vocabulary.Admits value symbol.kind :=
    Vocabulary.isEmpty_or_contains_iff SymbolKind.mem_entries h.kinds
  have haccessibility : x.acceptsAccessibility symbol.accessibility = true ↔
      ∀ value, symbolsValue? t name "applicable_accessibilities" = some value →
        ∀ a, symbol.accessibility = some a → Vocabulary.Admits value a := by
    cases symbol.accessibility with
    | none => simp [Specification.acceptsAccessibility]
    | some a =>
      simp only [Option.some.injEq, forall_eq']
      exact Vocabulary.isEmpty_or_contains_iff Accessibility.mem_entries h.accessibilities
  have hmodifiers : x.requiredModifiers.all symbol.modifiers.contains = true ↔
      ∀ value, symbolsValue? t name "required_modifiers" = some value →
        ∀ m ∈ Modifier.parseRequired value, symbol.modifiers.contains m = true := by
    rw [h.requiredModifiers]
    cases symbolsValue? t name "required_modifiers" <;> simp
  rw [Specification.appliesTo, Bool.and_eq_true, Bool.and_eq_true, hkind, haccessibility, hmodifiers]
  constructor
  · rintro ⟨⟨h₁, h₂⟩, h₃⟩
    exact ⟨h₁, h₂, h₃⟩
  · rintro ⟨h₁, h₂, h₃⟩
    exact ⟨⟨h₁, h₂⟩, h₃⟩

end Config

/-! ## Reading -/

namespace NamingConfig

open Config

variable {draw : Nat → Uuid} {t : Text}

/-- What is read lists the specifications of the draft, whether or not all ids are distinct. -/
theorem specifications_of_read_eq_ok {config : NamingConfig} (h : (read draw t).1 = .ok config) :
    config.rules.specifications = (Draft.ofSettings draw (Settings.ofText t)).specifications := by
  unfold read at h
  simp only at h
  generalize hlists : RuleSet.ofLists _ _ _ = lists at h
  cases lists with
  | error e => cases h
  | ok rules =>
    cases h
    exact (RuleSet.of_ofLists_eq_ok hlists).1

/-- A specification that is read under a name is described by the text under that name. -/
theorem describes_of_read_eq_ok {config : NamingConfig} (h : (read draw t).1 = .ok config)
    {x : Specification} (hx : x ∈ config.rules.specifications) {name : Text}
    (hname : x.name = Text.lowerAscii name) : DescribesSpecification t name x := by
  rw [specifications_of_read_eq_ok h] at hx
  have hself := (Draft.invariant_ofSettings draw (Settings.ofText t)).specifications x hx
  rw [hname] at hself
  rw [hself]
  exact describesSpecification t name x.id

/-- A configuration is read if the ids drawn are distinct. A specification that is read then chooses by
those tokens of its symbols group that are recognized: it applies to a symbol exactly if the kind and
the visibility of the symbol are spelled among them, or no token is there to choose by, and the symbol
has the modifiers that are asked for. -/
theorem read_appliesTo_iff (draw : Nat → Uuid) (t : Text) :
    (DrawsDistinct draw t → ∃ config, (read draw t).1 = .ok config) ∧
    ∀ config, (read draw t).1 = .ok config → ∀ x ∈ config.rules.specifications, ∀ name,
      x.name = Text.lowerAscii name → ∀ symbol,
        (x.appliesTo symbol = true ↔ Chooses t name symbol) := by
  constructor
  · intro hdraw
    obtain ⟨config, hconfig, -⟩ := exists_read_eq_ok hdraw
    exact ⟨config, hconfig⟩
  · intro config hconfig x hx name hname symbol
    exact (describes_of_read_eq_ok hconfig hx hname).appliesTo_iff

/-- A rule whose symbols group lists these tokens for kinds and for visibilities. -/
def tokensRule (kinds accessibilities : Text) : Text :=
  Text.joinWith ['\n']
    ["naming_rule.r.symbols=S".toList, "naming_rule.r.style=p".toList,
      "naming_symbols.s.applicable_kinds=".toList ++ kinds,
      "naming_symbols.s.applicable_accessibilities=".toList ++ accessibilities,
      "naming_style.p.capitalization=pascal_case".toList]

/-- Public classes beside tokens that are unknown. -/
def publicClasses : Text := tokensRule "class, widget".toList "galactic, public".toList

/-- The unknown tokens choose nothing: the group is for public classes, and not for public fields. -/
theorem read_appliesTo_iff_publicClasses :
    DrawsDistinct .ofNat publicClasses ∧
    ∃ config, (read .ofNat publicClasses).1 = .ok config ∧
      ∃ x ∈ config.rules.specifications, x.name = Text.lowerAscii "S".toList ∧
        (∀ symbol, x.appliesTo symbol = true ↔ Chooses publicClasses "S".toList symbol) ∧
        x.appliesTo { kind := .type .classType, accessibility := some .publicLevel } = true ∧
        x.appliesTo { kind := .field, accessibility := some .publicLevel } = false := by
  have hdraft : DrawsDistinct .ofNat publicClasses ∧
      (Draft.ofSettings .ofNat (Settings.ofText publicClasses)).specifications =
        [{ id := .ofNat 1, name := "s".toList, kinds := [.type .classType],
           accessibilities := [.publicLevel] }] := by
    decide +kernel
  obtain ⟨hread, happlies⟩ := read_appliesTo_iff .ofNat publicClasses
  obtain ⟨config, hconfig⟩ := hread hdraft.1
  have hspecifications := (specifications_of_read_eq_ok hconfig).trans hdraft.2
  have hmem := hspecifications ▸ List.mem_cons_self
  exact ⟨hdraft.1, config, hconfig, _, hmem, rfl, happlies config hconfig _ hmem "S".toList rfl, rfl,
    rfl⟩

/-- A kind and a visibility that are both unknown. -/
def galacticWidgets : Text := tokensRule "widget".toList "galactic".toList

/-- Unknown tokens alone choose everything: the specification applies to a public field, though no token
spells a field or what is public. -/
theorem read_galacticWidgets_appliesTo :
    ∃ config, (read .ofNat galacticWidgets).1 = .ok config ∧
      ∃ x ∈ config.rules.specifications, x.name = Text.lowerAscii "S".toList ∧
      ∃ kinds accessibilities,
        symbolsValue? galacticWidgets "S".toList "applicable_kinds" = some kinds ∧
        symbolsValue? galacticWidgets "S".toList "applicable_accessibilities" =
          some accessibilities ∧
        Unicode.trim kinds ∉ [[], Vocabulary.wildcard.toList] ∧
        Unicode.trim accessibilities ∉ [[], Vocabulary.wildcard.toList] ∧
        x.appliesTo { kind := .field, accessibility := some .publicLevel } = true ∧
        (∀ token ∈ Text.splitOn ',' kinds, Vocabulary.lookup? token ≠ some SymbolKind.field) ∧
        ∀ token ∈ Text.splitOn ',' accessibilities,
          Vocabulary.lookup? token ≠ some Accessibility.publicLevel := by
  have hdraft : DrawsDistinct .ofNat galacticWidgets ∧
      (Draft.ofSettings .ofNat (Settings.ofText galacticWidgets)).specifications =
        [{ id := .ofNat 1, name := "s".toList }] ∧
      symbolsValue? galacticWidgets "S".toList "applicable_kinds" =
        some "widget".toList ∧
      symbolsValue? galacticWidgets "S".toList "applicable_accessibilities" =
        some "galactic".toList := by
    decide +kernel
  obtain ⟨hdraw, hspecifications, hkinds, haccessibilities⟩ := hdraft
  obtain ⟨config, hconfig, -⟩ := exists_read_eq_ok hdraw
  rw [← specifications_of_read_eq_ok hconfig] at hspecifications
  exact ⟨config, hconfig, _, hspecifications ▸ List.mem_cons_self, rfl, _, _, hkinds,
    haccessibilities, by decide +kernel, by decide +kernel, rfl, by decide +kernel,
    by decide +kernel⟩

end NamingConfig

end Nomenclator
