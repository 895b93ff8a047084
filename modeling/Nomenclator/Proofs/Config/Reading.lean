import Nomenclator.Proofs.Config.KeyLines
import Nomenclator.Proofs.Rules.RuleSet

/-!
# What a configuration is read as

Reading never fails as long as no id is drawn twice, and the rule set is the one that the text
describes (`NamingConfig.read_spec`): a rule for each rule group that is not dropped, in the order in
which the groups are mentioned, and for each dropped group a warning that says so.

`Describes` says what the text says of a rule, in terms of its key lines alone: each value is the one on
the last line of a normalized key, which is spelled out (`groupValue?`). A rule refers to symbols and to
a style by name, and names are compared without regard to ASCII case.
-/

namespace Nomenclator

namespace Config

/-! ## What a text says of rules -/

/-- The value of a property of a rule group. -/
def ruleValue? (t group : Text) (property : String) : Option Text :=
  groupValue? t "naming_rule" group property

/-- The value of a property of the symbols group of a name. Keys are in small letters, and the name may
be in any case. -/
def symbolsValue? (t name : Text) (property : String) : Option Text :=
  groupValue? t "naming_symbols" (Text.lowerAscii name) property

/-- The value of a property of the style group of a name, which may be in any case. -/
def styleValue? (t name : Text) (property : String) : Option Text :=
  groupValue? t "naming_style" (Text.lowerAscii name) property

/-- The choice of symbols that the text describes under a name. -/
structure DescribesSpecification (t name : Text) (x : Specification) : Prop where
  name_eq : x.name = Text.lowerAscii name
  kinds : x.kinds =
    ((symbolsValue? t name "applicable_kinds").map Vocabulary.parseMembers).getD []
  accessibilities : x.accessibilities =
    ((symbolsValue? t name "applicable_accessibilities").map Vocabulary.parseMembers).getD []
  requiredModifiers : x.requiredModifiers =
    ((symbolsValue? t name "required_modifiers").map Modifier.parseRequired).getD []

/-- The capitalization that the text gives to the style of a name, if it is known. -/
def capitalization? (t name : Text) : Option Capitalization :=
  (styleValue? t name "capitalization").bind Vocabulary.lookup?

/-- The style that the text describes under a name. -/
structure DescribesStyle (t name : Text) (x : Style) : Prop where
  name_eq : x.name = Text.lowerAscii name
  capitalization : capitalization? t name = some x.capitalization
  requiredPrefix : x.requiredPrefix = (styleValue? t name "required_prefix").getD []
  requiredSuffix : x.requiredSuffix = (styleValue? t name "required_suffix").getD []
  wordSeparator : x.wordSeparator = (styleValue? t name "word_separator").getD []

/-- The rule that the text describes under the name of a rule group. -/
structure Describes (t group : Text) (r : ResolvedRule) : Prop where
  specification : ∃ name, ruleValue? t group "symbols" = some name ∧
    DescribesSpecification t name r.specification
  style : ∃ name, ruleValue? t group "style" = some name ∧
    DescribesStyle t name r.style
  severity : r.severity =
    ((ruleValue? t group "severity").bind Vocabulary.lookup?).getD .suggestion

/-- The text says too little of a rule group to make a rule of it. -/
def Drops (t group : Text) : Prop :=
  ruleValue? t group "symbols" = none ∨
  ruleValue? t group "style" = none ∨
  ∃ name, ruleValue? t group "style" = some name ∧ capitalization? t name = none

/-- The rule groups in the order of the first key lines that mention them. -/
def mentionedGroups (t : Text) : List Text := firstMentions (keyLines (Text.lines t))

/-- The rule group that is dropped with a warning, if the warning is of that sort. -/
def Warning.droppedRule? : Warning → Option Text
  | .ruleWithoutSymbols rule | .ruleWithoutStyle rule | .unknownCapitalization rule _ => some rule
  | .unassignedLine _ | .notBoolean _ _ | .unknownSeverity _ _ => none

/-! ## Settings and texts -/

theorem capitalization?_ofText (t name : Text) :
    (Settings.ofText t).capitalization? (Text.lowerAscii name) = capitalization? t name := by
  rw [Settings.capitalization?, value?_eq_groupValue? t rfl rfl]
  rfl

theorem dropWarning?_ofText_eq_none_iff {t group : Text} :
    (Settings.ofText t).dropWarning? group = none ↔ ¬ Drops t group := by
  have hsymbols : (Settings.ofText t).value? (.rule group .symbols) =
      ruleValue? t group "symbols" := value?_eq_groupValue? t rfl rfl
  have hstyle : (Settings.ofText t).value? (.rule group .style) =
      ruleValue? t group "style" := value?_eq_groupValue? t rfl rfl
  rw [Settings.dropWarning?_eq_none_iff, hsymbols, hstyle]
  unfold Drops
  constructor
  · rintro ⟨symbols, style, hsymbols, hstyle, hknown⟩ (h | h | ⟨name, hname, h⟩)
    · rw [hsymbols] at h
      cases h
    · rw [hstyle] at h
      cases h
    · cases hstyle.symm.trans hname
      rw [capitalization?_ofText, h] at hknown
      cases hknown
  · intro h
    simp only [not_or, not_exists, not_and] at h
    obtain ⟨hsymbols, hstyle, hknown⟩ := h
    obtain ⟨symbols, hsymbols⟩ := Option.ne_none_iff_exists'.1 hsymbols
    obtain ⟨style, hstyle⟩ := Option.ne_none_iff_exists'.1 hstyle
    refine ⟨symbols, style, hsymbols, hstyle, ?_⟩
    rw [capitalization?_ofText]
    exact Option.isSome_iff_ne_none.2 (hknown style hstyle)

instance (t group : Text) : Decidable (Drops t group) :=
  decidable_of_iff (¬ (Settings.ofText t).dropWarning? group = none)
    (by rw [dropWarning?_ofText_eq_none_iff, Classical.not_not])

theorem droppedRule?_of_dropWarning? {s : Settings} {group : Text} {w : Warning}
    (h : s.dropWarning? group = some w) : w.droppedRule? = some group := by
  unfold Settings.dropWarning? at h
  split at h
  · cases h
    rfl
  · split at h
    · cases h
      rfl
    · split at h
      · cases h
      · cases h
        rfl

/-- The warnings on rules name exactly the dropped groups, each once and in order. -/
theorem filterMap_droppedRule?_ruleWarnings (t : Text) (groups : List Text) :
    (groups.flatMap (Settings.ofText t).ruleWarnings).filterMap Warning.droppedRule? =
      groups.filter fun group => Drops t group := by
  induction groups with
  | nil => rfl
  | cons group groups ih =>
    rw [List.flatMap_cons, List.filterMap_append, ih]
    unfold Settings.ruleWarnings
    cases h : (Settings.ofText t).dropWarning? group with
    | some w =>
      have hdrops : Drops t group := by
        by_contra hnot
        rw [dropWarning?_ofText_eq_none_iff.2 hnot] at h
        cases h
      simp [droppedRule?_of_dropWarning? h, hdrops]
    | none =>
      have hkept := dropWarning?_ofText_eq_none_iff.1 h
      have hseverity : ((Settings.ofText t).severityWarnings group).filterMap
          Warning.droppedRule? = [] := by
        unfold Settings.severityWarnings
        split
        · rfl
        · split <;> rfl
      simp [hseverity, hkept]

theorem describesSpecification (t name : Text) (id : Uuid) :
    DescribesSpecification t name
      ((Settings.ofText t).specification id (Text.lowerAscii name)) := by
  have hkinds : (Settings.ofText t).value? (.symbols (Text.lowerAscii name) .kinds) =
      symbolsValue? t name "applicable_kinds" :=
    value?_eq_groupValue? t rfl rfl
  have haccessibilities :
      (Settings.ofText t).value? (.symbols (Text.lowerAscii name) .accessibilities) =
        symbolsValue? t name "applicable_accessibilities" :=
    value?_eq_groupValue? t rfl rfl
  have hmodifiers : (Settings.ofText t).value? (.symbols (Text.lowerAscii name) .modifiers) =
      symbolsValue? t name "required_modifiers" :=
    value?_eq_groupValue? t rfl rfl
  refine ⟨rfl, ?_, ?_, ?_⟩
  · rw [← hkinds, Settings.specification]
  · rw [← haccessibilities, Settings.specification]
  · rw [← hmodifiers, Settings.specification]

theorem describesStyle {t name : Text} {id : Uuid} {x : Style}
    (h : (Settings.ofText t).style? id (Text.lowerAscii name) = some x) :
    DescribesStyle t name x := by
  have hprefix : (Settings.ofText t).value? (.style (Text.lowerAscii name) .requiredPrefix) =
      styleValue? t name "required_prefix" :=
    value?_eq_groupValue? t rfl rfl
  have hsuffix : (Settings.ofText t).value? (.style (Text.lowerAscii name) .requiredSuffix) =
      styleValue? t name "required_suffix" :=
    value?_eq_groupValue? t rfl rfl
  have hseparator : (Settings.ofText t).value? (.style (Text.lowerAscii name) .wordSeparator) =
      styleValue? t name "word_separator" :=
    value?_eq_groupValue? t rfl rfl
  obtain ⟨capitalization, hcapitalization, rfl⟩ := Option.map_eq_some_iff.1 h
  refine ⟨rfl, ?_, ?_, ?_, ?_⟩
  · rw [← capitalization?_ofText]
    exact hcapitalization
  · rw [← hprefix]
  · rw [← hsuffix]
  · rw [← hseparator]

/-! ## Reading -/

/-- The configuration and the warnings are what the text describes. -/
structure Reads (t : Text) (config : NamingConfig) (warnings : List Warning) : Prop where
  /-- The rule groups that are not dropped make the rules, in order, and every rule resolves. -/
  rules : List.Forall₂
    (fun group rule => ∃ r, config.rules.resolve? rule = some r ∧ Describes t group r)
    ((mentionedGroups t).filter fun group => ¬ Drops t group) config.rules.rules
  /-- There is a warning for each dropped group, in order. -/
  dropped : warnings.filterMap Warning.droppedRule? =
    (mentionedGroups t).filter fun group => Drops t group
  specificationNames : (config.rules.specifications.map (·.name)).Nodup
  styleNames : (config.rules.styles.map (·.name)).Nodup
  specification_used : ∀ x ∈ config.rules.specifications,
    ∃ rule ∈ config.rules.rules, rule.specificationId = x.id
  style_used : ∀ x ∈ config.rules.styles, ∃ rule ∈ config.rules.rules, rule.styleId = x.id

/-- A rule of the draft is listed and described by the text. -/
theorem describes_of_follows {draw : Nat → Uuid} {t : Text} {d : Draft}
    (hlisted : d.Listed draw (Settings.ofText t)) {group : Text} {rule : Rule}
    (h : d.Follows (Settings.ofText t) group rule) :
    ∃ specification ∈ d.specifications, ∃ style ∈ d.styles,
      rule.specificationId = specification.id ∧ rule.styleId = style.id ∧
      Describes t group ⟨specification, style, rule.severity⟩ := by
  obtain ⟨specification, hspecification, style, hstyle, hspecificationId, hstyleId, hsymbols,
    hstyleName, hseverity⟩ := h
  obtain ⟨symbols, hsymbols, hname⟩ := Option.map_eq_some_iff.1 hsymbols
  obtain ⟨name, hstyleName, hname'⟩ := Option.map_eq_some_iff.1 hstyleName
  have hgiven : (Settings.ofText t).value? (.rule group .severity) =
      ruleValue? t group "severity" := value?_eq_groupValue? t rfl rfl
  rw [value?_eq_groupValue? t rfl rfl] at hsymbols hstyleName
  refine ⟨specification, hspecification, style, hstyle, hspecificationId, hstyleId,
    ⟨symbols, hsymbols, ?_⟩, ⟨name, hstyleName, ?_⟩, ?_⟩
  · have hself := hlisted.specifications specification hspecification
    rw [← hname] at hself
    rw [hself]
    exact describesSpecification t symbols specification.id
  · have hself := hlisted.styles style hstyle
    rw [← hname'] at hself
    exact describesStyle hself
  · rw [hseverity, Settings.severity, hgiven]
    rfl

theorem droppedRule?_of_mem_warnings_ofText {t : Text} {w : Warning}
    (h : w ∈ (Settings.ofText t).warnings) : w.droppedRule? = none :=
  warnings_addLines (P := fun w => w.droppedRule? = none) (fun _ => rfl) (fun _ _ => rfl)
    (s := {}) (by simp) 1 (Text.lines t) w h

/-- A rule set that holds what a draft lists is what the text describes. -/
theorem reads_of_invariant {draw : Nat → Uuid} {t : Text} {d : Draft} {config : NamingConfig}
    (h : d.Invariant draw (Settings.ofText t) (mentionedGroups t))
    (hspecifications : config.rules.specifications = d.specifications)
    (hstyles : config.rules.styles = d.styles) (hrules : config.rules.rules = d.rules) :
    Reads t config ((Settings.ofText t).warnings ++ d.warnings) := by
  obtain ⟨hlisted, hfollows, hspecificationUsed, hstyleUsed, hwarnings⟩ := h
  have hkept : ∀ group, (Settings.ofText t).dropWarning? group = none ↔ ¬ Drops t group :=
    fun _ => dropWarning?_ofText_eq_none_iff
  refine ⟨?_, ?_, ?_, ?_, ?_, ?_⟩
  · rw [hrules, ← List.filter_congr fun group _ => decide_eq_decide.2 (hkept group)]
    refine hfollows.imp fun group rule hfollows => ?_
    obtain ⟨specification, hspecification, style, hstyle, hspecificationId, hstyleId,
      hdescribes⟩ := describes_of_follows hlisted hfollows
    rw [← hspecifications] at hspecification
    rw [← hstyles] at hstyle
    exact ⟨_, config.rules.resolve?_eq_some hspecification hstyle hspecificationId hstyleId,
      hdescribes⟩
  · rw [List.filterMap_append, hwarnings, filterMap_droppedRule?_ruleWarnings,
      List.filterMap_eq_nil_iff.2 fun w hw => droppedRule?_of_mem_warnings_ofText hw,
      List.nil_append]
  · rw [hspecifications]
    exact hlisted.specificationNames
  · rw [hstyles]
    exact hlisted.styleNames
  · rw [hspecifications, hrules]
    exact hspecificationUsed
  · rw [hstyles, hrules]
    exact hstyleUsed

end Config

namespace NamingConfig

open Config

/-- With distinct ids, what is read is the draft. -/
theorem exists_read_eq_ok {draw : Nat → Uuid} {t : Text}
    (hdraw : ((List.range (Draft.ofSettings draw (Settings.ofText t)).drawn).map draw).Nodup) :
    ∃ config, (read draw t).1 = .ok config ∧
      config.showNameSuggestions = (Settings.ofText t).showNameSuggestions.getD true ∧
      config.rules.specifications = (Draft.ofSettings draw (Settings.ofText t)).specifications ∧
      config.rules.styles = (Draft.ofSettings draw (Settings.ofText t)).styles ∧
      config.rules.rules = (Draft.ofSettings draw (Settings.ofText t)).rules := by
  have h := Draft.invariant_ofSettings draw (Settings.ofText t)
  obtain ⟨hspecifications, hstyles, -⟩ := List.nodup_append.1 (h.ids.nodup_iff.2 hdraw)
  obtain ⟨p, hp, hp₁, hp₂, hp₃⟩ :=
    RuleSet.exists_ofLists_eq_ok hspecifications hstyles h.rules_listed
  unfold read
  simp only [hp, Except.map]
  exact ⟨_, rfl, rfl, hp₁, hp₂, hp₃⟩

/-- A configuration is always read, and as the rule set that its text describes, if the ids drawn for
specifications and styles are distinct. -/
theorem read_spec {draw : Nat → Uuid} {t : Text}
    (hdraw : ((List.range (Draft.ofSettings draw (Settings.ofText t)).drawn).map draw).Nodup) :
    ∃ config, (read draw t).1 = .ok config ∧ Reads t config (read draw t).2 := by
  have h := Draft.invariant_ofSettings draw (Settings.ofText t)
  rw [ruleGroups_ofText] at h
  obtain ⟨config, hconfig, -, hspecifications, hstyles, hrules⟩ := exists_read_eq_ok hdraw
  exact ⟨config, hconfig, reads_of_invariant h hspecifications hstyles hrules⟩

/-- Five rule groups. The first is mentioned by a property that no rule has, and shares its symbols group
and its style group with the second. The last three are dropped. Some lines take the place of lines
before them, and some tokens spell nothing. -/
def fiveRules : Text :=
  Text.joinWith ['\n'] (List.map String.toList
    ["#naming_rule.x.symbols=s", "[*.cs]", "naming_rule.Z.note=", "Dotnet_naming_rule.a.symbols = S",
      "naming_rule.a.style=P", "naming_rule.a.severity=loud", "naming_rule.z.symbols=s",
      "naming_rule.z.style=p", "naming_rule.z.severity=none", "naming_rule.z.severity= error",
      "naming_rule.c.style=p", "naming_rule.d.symbols=s", "naming_rule.e.symbols=s",
      "naming_rule.e.style=q", "naming_symbols.s.applicable_kinds=class",
      "dotnet_naming_symbols.S.applicable_kinds=field, widget , Property",
      "naming_symbols.s.applicable_accessibilities=private",
      "naming_symbols.s.required_modifiers=static,virtual,shared,const",
      "naming_style.p.capitalization=camel_case", "naming_style.p.required_prefix=m_",
      "naming_style.p.required_suffix=X", "naming_style.p.word_separator=_",
      "naming_style.q.capitalization=wavy"])

theorem settings_fiveRules : Settings.ofText fiveRules =
    { values :=
        [(.rule ['z'] .other, []), (.rule ['a'] .symbols, ['S']), (.rule ['a'] .style, ['P']),
          (.rule ['a'] .severity, "loud".toList), (.rule ['z'] .symbols, ['s']),
          (.rule ['z'] .style, ['p']), (.rule ['z'] .severity, "none".toList),
          (.rule ['z'] .severity, "error".toList), (.rule ['c'] .style, ['p']),
          (.rule ['d'] .symbols, ['s']), (.rule ['e'] .symbols, ['s']), (.rule ['e'] .style, ['q']),
          (.symbols ['s'] .kinds, "class".toList),
          (.symbols ['s'] .kinds, "field, widget , Property".toList),
          (.symbols ['s'] .accessibilities, "private".toList),
          (.symbols ['s'] .modifiers, "static,virtual,shared,const".toList),
          (.style ['p'] .capitalization, "camel_case".toList),
          (.style ['p'] .requiredPrefix, "m_".toList), (.style ['p'] .requiredSuffix, ['X']),
          (.style ['p'] .wordSeparator, ['_']), (.style ['q'] .capitalization, "wavy".toList)] } := by
  decide +kernel

/-- The first two make rules, in the order in which they are mentioned. The others are dropped: one for
want of symbols, one for want of a style, and one because its style has no known capitalization. -/
theorem read_spec_fiveRules :
    ((List.range (Draft.ofSettings .ofNat (Settings.ofText fiveRules)).drawn).map
        Uuid.ofNat).Nodup ∧
    (symbolsValue? fiveRules ['S'] "applicable_kinds" = some "field, widget , Property".toList ∧
      ruleValue? fiveRules ['c'] "symbols" = none ∧ ruleValue? fiveRules ['d'] "style" = none ∧
      capitalization? fiveRules ['q'] = none) ∧
    ∃ config, (read .ofNat fiveRules).1 = .ok config ∧
      Reads fiveRules config (read .ofNat fiveRules).2 ∧
      (mentionedGroups fiveRules).filter (fun group => Drops fiveRules group) =
        [['c'], ['d'], ['e']] ∧
      config.rules.specifications =
        [{ id := .ofNat 1, name := ['s'], kinds := [.field, .property]
           accessibilities := [.privateLevel], requiredModifiers := [.static, .const] }] ∧
      config.rules.styles =
        [{ id := .ofNat 0, name := ['p'], capitalization := .camelCase
           requiredPrefix := "m_".toList, requiredSuffix := ['X'], wordSeparator := ['_'] }] ∧
      config.rules.rules = [⟨.ofNat 1, .ofNat 0, .error⟩, ⟨.ofNat 1, .ofNat 0, .suggestion⟩] := by
  have hdraw : ((List.range (Draft.ofSettings .ofNat (Settings.ofText fiveRules)).drawn).map
      Uuid.ofNat).Nodup := by
    rw [settings_fiveRules]
    decide +kernel
  have hkinds : (Settings.ofText fiveRules).value? (.symbols (Text.lowerAscii ['S']) .kinds) =
      symbolsValue? fiveRules ['S'] "applicable_kinds" := value?_eq_groupValue? fiveRules rfl rfl
  have hsymbols : (Settings.ofText fiveRules).value? (.rule ['c'] .symbols) =
      ruleValue? fiveRules ['c'] "symbols" := value?_eq_groupValue? fiveRules rfl rfl
  have hstyle : (Settings.ofText fiveRules).value? (.rule ['d'] .style) =
      ruleValue? fiveRules ['d'] "style" := value?_eq_groupValue? fiveRules rfl rfl
  have hvalues : symbolsValue? fiveRules ['S'] "applicable_kinds" =
        some "field, widget , Property".toList ∧
      ruleValue? fiveRules ['c'] "symbols" = none ∧ ruleValue? fiveRules ['d'] "style" = none ∧
      capitalization? fiveRules ['q'] = none := by
    rw [← hkinds, ← hsymbols, ← hstyle, ← capitalization?_ofText, settings_fiveRules]
    decide +kernel
  obtain ⟨config, hconfig, hreads⟩ := read_spec hdraw
  have hdropped : (read .ofNat fiveRules).2.filterMap Warning.droppedRule? =
      [['c'], ['d'], ['e']] := by
    simp only [read, settings_fiveRules]
    decide +kernel
  have hlists : (read .ofNat fiveRules).1.toOption.map (fun config =>
        (config.rules.specifications, config.rules.styles, config.rules.rules)) =
      some
        ([{ id := .ofNat 1, name := ['s'], kinds := [.field, .property]
            accessibilities := [.privateLevel], requiredModifiers := [.static, .const] }],
        [{ id := .ofNat 0, name := ['p'], capitalization := .camelCase
           requiredPrefix := "m_".toList, requiredSuffix := ['X'], wordSeparator := ['_'] }],
        [⟨.ofNat 1, .ofNat 0, .error⟩, ⟨.ofNat 1, .ofNat 0, .suggestion⟩]) := by
    simp only [read, settings_fiveRules]
    decide +kernel
  rw [hconfig] at hlists
  simp only [Except.toOption, Option.map_some, Option.some.injEq, Prod.mk.injEq] at hlists
  obtain ⟨hspecifications, hstyles, hrules⟩ := hlists
  exact ⟨hdraw, hvalues, config, hconfig, hreads, hreads.dropped.symm.trans hdropped,
    hspecifications, hstyles, hrules⟩

end NamingConfig

end Nomenclator
