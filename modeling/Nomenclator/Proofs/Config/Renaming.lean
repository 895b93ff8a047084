import Nomenclator.Proofs.Config.Draft

/-!
# Drafts up to the ids drawn

Two things decide what draft the settings make: the values of keys that the reader looks up together
with the order of the rule groups (`Draft.ofSettings_congr`), and the ids drawn. The ids matter no
further than as names: whoever draws other ids makes the same draft with the ids renamed
(`Draft.ofSettings_rename`).

Only the ids that are drawn can be compared, and how many these are is known at the end of the run.
Each step therefore asks for agreement up to the number drawn after it, and the run uses that the
number never falls (`Draft.drawn_le_addRule`).
-/

namespace Nomenclator

/-! ## Renaming ids -/

/-- The specification under another id. -/
def Specification.rename (f : Uuid → Uuid) (x : Specification) : Specification :=
  { x with id := f x.id }

/-- The style under another id. -/
def Style.rename (f : Uuid → Uuid) (x : Style) : Style := { x with id := f x.id }

/-- The rule with its references under other ids. -/
def Rule.rename (f : Uuid → Uuid) (rule : Rule) : Rule :=
  { rule with specificationId := f rule.specificationId, styleId := f rule.styleId }

namespace Config

/-! ## The settings that are looked up -/

/-- The value of the key is looked up somewhere. That of a property that no rule has never is. -/
def Key.isRead : Key → Bool
  | .rule _ .other => false
  | _ => true

namespace Settings

variable {s s' : Settings}

theorem specification_congr (h : ∀ key : Key, key.isRead = true → s.value? key = s'.value? key)
    (id : Uuid) (group : Text) : s.specification id group = s'.specification id group := by
  unfold specification
  rw [h (.symbols group .kinds) rfl, h (.symbols group .accessibilities) rfl,
    h (.symbols group .modifiers) rfl]

theorem style?_congr (h : ∀ key : Key, key.isRead = true → s.value? key = s'.value? key)
    (id : Uuid) (group : Text) : s.style? id group = s'.style? id group := by
  unfold style?
  rw [h (.style group .capitalization) rfl, h (.style group .requiredPrefix) rfl,
    h (.style group .requiredSuffix) rfl, h (.style group .wordSeparator) rfl]

/-- A style is described in the same way under each id. -/
theorem style?_rename (s : Settings) (f : Uuid → Uuid) (id : Uuid) (group : Text) :
    s.style? (f id) group = (s.style? id group).map (Style.rename f) := by
  unfold style?
  rw [Option.map_map]
  rfl

end Settings

namespace Draft

variable {s s' : Settings} {d d' : Draft} {draw draw' : Nat → Uuid} {f : Uuid → Uuid}

/-- The draft with its ids renamed. -/
def rename (f : Uuid → Uuid) (d : Draft) : Draft :=
  { d with
    specifications := d.specifications.map (Specification.rename f)
    styles := d.styles.map (Style.rename f)
    rules := d.rules.map (Rule.rename f) }

@[simp] theorem drawn_rename (f : Uuid → Uuid) (d : Draft) : (d.rename f).drawn = d.drawn := by
  simp [drawn, rename]

/-! ## The same draft from other settings -/

theorem addRule_congr (h : ∀ key : Key, key.isRead = true → s.value? key = s'.value? key)
    (draw : Nat → Uuid) (d : Draft) (group : Text) :
    addRule draw s d group = addRule draw s' d group := by
  have hstyle : ∀ (d : Draft) group, d.withStyle? draw s group = d.withStyle? draw s' group := by
    intro d group
    unfold withStyle?
    rw [Settings.style?_congr h]
  have hspecification : ∀ (d : Draft) group,
      d.withSpecification draw s group = d.withSpecification draw s' group := by
    intro d group
    unfold withSpecification
    rw [Settings.specification_congr h]
  have hseverity : ∀ (d : Draft) group, d.withSeverity s group = d.withSeverity s' group := by
    intro d group
    unfold withSeverity
    rw [h (.rule group .severity) rfl]
  unfold addRule
  rw [h (.rule group .symbols) rfl, h (.rule group .style) rfl]
  simp only [hstyle, hspecification, hseverity]

/-- Settings that agree on the keys looked up and on the order of the rule groups make the same
draft. -/
theorem ofSettings_congr (h : ∀ key : Key, key.isRead = true → s.value? key = s'.value? key)
    (hgroups : s.ruleGroups = s'.ruleGroups) (draw : Nat → Uuid) :
    ofSettings draw s = ofSettings draw s' := by
  have hstep : addRule draw s = addRule draw s' :=
    funext fun d => funext fun group => addRule_congr h draw d group
  rw [ofSettings, ofSettings, hgroups, hstep]

/-! ## How many ids are drawn -/

theorem drawn_le_withStyle? {group : Text} {style : Style}
    (h : d.withStyle? draw s group = some (style, d')) : d.drawn ≤ d'.drawn := by
  unfold withStyle? at h
  split at h
  · cases h
    exact Nat.le_refl _
  · obtain ⟨new, -, heq⟩ := Option.map_eq_some_iff.1 h
    cases heq
    rw [drawn_addStyle]
    exact Nat.le_succ _

theorem drawn_le_withSpecification {group : Text} {specification : Specification}
    (h : d.withSpecification draw s group = (specification, d')) : d.drawn ≤ d'.drawn := by
  unfold withSpecification at h
  split at h
  · cases h
    exact Nat.le_refl _
  · cases h
    rw [drawn_addSpecification]
    exact Nat.le_succ _

theorem drawn_le_addRule (draw : Nat → Uuid) (s : Settings) (d : Draft) (group : Text) :
    d.drawn ≤ (addRule draw s d group).drawn := by
  unfold addRule
  cases s.value? (.rule group .symbols) with
  | none => exact Nat.le_refl _
  | some symbols =>
    cases s.value? (.rule group .style) with
    | none => exact Nat.le_refl _
    | some style =>
      cases h₁ : d.withStyle? draw s (Text.lowerAscii style) with
      | none =>
        simp only [h₁]
        exact Nat.le_refl _
      | some found =>
        obtain ⟨style', d₁⟩ := found
        rcases h₂ : d₁.withSpecification draw s (Text.lowerAscii symbols) with ⟨x, d₂⟩
        have hdrawn : d.drawn ≤ d₂.drawn :=
          Nat.le_trans (drawn_le_withStyle? h₁) (drawn_le_withSpecification h₂)
        simp only [h₁, h₂, withSeverity_eq]
        exact hdrawn

theorem drawn_le_foldl_addRule (draw : Nat → Uuid) (s : Settings) (d : Draft)
    (groups : List Text) : d.drawn ≤ (groups.foldl (addRule draw s) d).drawn := by
  induction groups generalizing d with
  | nil => exact Nat.le_refl _
  | cons group groups ih =>
    rw [List.foldl_cons]
    exact Nat.le_trans (drawn_le_addRule draw s d group) (ih (addRule draw s d group))

/-! ## The same draft with other ids -/

/-- Styles are found by their names, which stay. -/
theorem find?_styles_rename (f : Uuid → Uuid) (d : Draft) (group : Text) :
    ((d.rename f).styles.find? fun style => style.name = group) =
      (d.styles.find? fun style => style.name = group).map (Style.rename f) := by
  rw [rename, List.find?_map]
  rfl

theorem find?_specifications_rename (f : Uuid → Uuid) (d : Draft) (group : Text) :
    ((d.rename f).specifications.find? fun x => x.name = group) =
      (d.specifications.find? fun x => x.name = group).map (Specification.rename f) := by
  rw [rename, List.find?_map]
  rfl

theorem withStyle?_rename_of_none {group : Text} (h : d.withStyle? draw s group = none) :
    (d.rename f).withStyle? draw' s group = none := by
  unfold withStyle? at h ⊢
  rw [find?_styles_rename]
  cases hfind : d.styles.find? fun style => style.name = group with
  | some style =>
    rw [hfind] at h
    cases h
  | none =>
    rw [hfind] at h
    have hnone := Option.map_eq_none_iff.1 h
    rw [Settings.style?_eq_none_iff] at hnone
    exact Option.map_eq_none_iff.2 (Settings.style?_eq_none_iff.2 hnone)

theorem withStyle?_rename {group : Text} {style : Style}
    (h : d.withStyle? draw s group = some (style, d'))
    (hf : ∀ i < d'.drawn, f (draw i) = draw' i) :
    (d.rename f).withStyle? draw' s group = some (style.rename f, d'.rename f) := by
  unfold withStyle? at h ⊢
  rw [drawn_rename, find?_styles_rename]
  cases hfind : d.styles.find? fun style => style.name = group with
  | some found =>
    rw [hfind] at h
    cases h
    rfl
  | none =>
    rw [hfind] at h
    obtain ⟨new, hnew, heq⟩ := Option.map_eq_some_iff.1 h
    cases heq
    have hid : f (draw d.drawn) = draw' d.drawn := by
      apply hf
      simp only [drawn, List.length_append, List.length_singleton]
      omega
    simp [← hid, Settings.style?_rename, hnew, rename]

theorem withSpecification_rename {group : Text} {specification : Specification}
    (h : d.withSpecification draw s group = (specification, d'))
    (hf : ∀ i < d'.drawn, f (draw i) = draw' i) :
    (d.rename f).withSpecification draw' s group = (specification.rename f, d'.rename f) := by
  unfold withSpecification at h ⊢
  rw [drawn_rename, find?_specifications_rename]
  cases hfind : d.specifications.find? fun specification => specification.name = group with
  | some found =>
    rw [hfind] at h
    cases h
    rfl
  | none =>
    rw [hfind] at h
    cases h
    have hid : f (draw d.drawn) = draw' d.drawn := by
      apply hf
      simp only [drawn, List.length_append, List.length_singleton]
      omega
    simp [← hid, Settings.specification, Specification.rename, rename]

/-- One more rule group keeps drafts the same up to ids. -/
theorem addRule_rename {group : Text}
    (hf : ∀ i < (addRule draw s d group).drawn, f (draw i) = draw' i) :
    addRule draw' s (d.rename f) group = (addRule draw s d group).rename f := by
  unfold addRule at hf ⊢
  cases hsymbols : s.value? (.rule group .symbols) with
  | none => rfl
  | some symbols =>
    cases hstyle : s.value? (.rule group .style) with
    | none => rfl
    | some style =>
      cases h₁ : d.withStyle? draw s (Text.lowerAscii style) with
      | none =>
        simp only [h₁, withStyle?_rename_of_none h₁]
        rfl
      | some found =>
        obtain ⟨style', d₁⟩ := found
        rcases h₂ : d₁.withSpecification draw s (Text.lowerAscii symbols) with ⟨x, d₂⟩
        simp only [hsymbols, hstyle, h₁, h₂, withSeverity_eq] at hf
        have hf₂ : ∀ i < d₂.drawn, f (draw i) = draw' i := hf
        have hf₁ : ∀ i < d₁.drawn, f (draw i) = draw' i :=
          fun i hi => hf₂ i (Nat.lt_of_lt_of_le hi (drawn_le_withSpecification h₂))
        simp only [h₁, h₂, withStyle?_rename h₁ hf₁, withSpecification_rename h₂ hf₂,
          withSeverity_eq]
        simp [rename, Rule.rename, Specification.rename, Style.rename]

/-- The induction is on the groups that are left. -/
theorem foldl_addRule_rename {groups : List Text}
    (hf : ∀ i < (groups.foldl (addRule draw s) d).drawn, f (draw i) = draw' i) :
    groups.foldl (addRule draw' s) (d.rename f) =
      (groups.foldl (addRule draw s) d).rename f := by
  induction groups generalizing d with
  | nil => rfl
  | cons group groups ih =>
    rw [List.foldl_cons] at hf
    have hstep : ∀ i < (addRule draw s d group).drawn, f (draw i) = draw' i := by
      intro i hi
      exact hf i (Nat.lt_of_lt_of_le hi (drawn_le_foldl_addRule draw s _ groups))
    rw [List.foldl_cons, List.foldl_cons, addRule_rename hstep]
    exact ih hf

/-- Whoever draws other ids makes the same draft up to the renaming that takes the ones to the
others. -/
theorem ofSettings_rename (hf : ∀ i < (ofSettings draw s).drawn, f (draw i) = draw' i) :
    ofSettings draw' s = (ofSettings draw s).rename f :=
  foldl_addRule_rename (d := {}) hf

end Draft

end Config

end Nomenclator
