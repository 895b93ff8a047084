import Mathlib.Data.List.Forall2
import Nomenclator.Config.Reading
import Nomenclator.Proofs.Rules.RuleSet

/-!
# The draft of a rule set

The reader goes through the rule groups and keeps a draft: the rules so far, and the specifications
and styles that they needed. `Draft.Invariant` says what holds of the draft after some groups, and
`Draft.Invariant.addRule` that one more group keeps it: the group either leaves a rule, whose
specification and style are listed then, or a warning and nothing else.

A specification or a style that is listed already is described by the settings under its name and
its id, so it does not matter that only the first rule that needs it reads the settings.
-/

namespace Nomenclator.Config

/-! ## What a rule group asks for -/

namespace Settings

variable (s : Settings)

/-- The known capitalization of a style group. -/
def capitalization? (group : Text) : Option Capitalization :=
  (s.value? (.style group .capitalization)).bind Vocabulary.lookup?

/-- The warning with which a rule group is dropped, if it is. -/
def dropWarning? (group : Text) : Option Warning :=
  match s.value? (.rule group .symbols) with
  | none => some (.ruleWithoutSymbols group)
  | some _ =>
    match s.value? (.rule group .style) with
    | none => some (.ruleWithoutStyle group)
    | some style =>
      if (s.capitalization? (Text.lowerAscii style)).isSome then none
      else some (.unknownCapitalization group (Text.lowerAscii style))

/-- The severity of a rule group. -/
def severity (group : Text) : Severity :=
  ((s.value? (.rule group .severity)).bind Vocabulary.lookup?).getD default

/-- The warning on the severity of a rule group, if it is given and not known. -/
def severityWarnings (group : Text) : List Warning :=
  match s.value? (.rule group .severity) with
  | none => []
  | some token =>
    if (Vocabulary.lookup? token : Option Severity).isSome then []
    else [.unknownSeverity group token]

/-- All warnings on a rule group. -/
def ruleWarnings (group : Text) : List Warning :=
  match s.dropWarning? group with
  | some w => [w]
  | none => s.severityWarnings group

variable {s}

theorem style?_eq_none_iff {id : Uuid} {group : Text} :
    s.style? id group = none ↔ s.capitalization? group = none := by
  simp [style?, capitalization?]

theorem of_style?_eq_some {id : Uuid} {group : Text} {style : Style}
    (h : s.style? id group = some style) : style.id = id ∧ style.name = group := by
  obtain ⟨capitalization, -, rfl⟩ := Option.map_eq_some_iff.1 h
  exact ⟨rfl, rfl⟩

/-- A group is kept exactly if it names a symbols group and a style group of known capitalization. -/
theorem dropWarning?_eq_none_iff {group : Text} :
    s.dropWarning? group = none ↔
      ∃ symbols style, s.value? (.rule group .symbols) = some symbols ∧
        s.value? (.rule group .style) = some style ∧
        (s.capitalization? (Text.lowerAscii style)).isSome = true := by
  unfold dropWarning?
  cases hsymbols : s.value? (.rule group .symbols) with
  | none => simp
  | some symbols =>
    cases hstyle : s.value? (.rule group .style) with
    | none => simp
    | some style =>
      cases hcapitalization : s.capitalization? (Text.lowerAscii style) <;> simp [hcapitalization]

end Settings

/-! ## What is listed in a draft -/

namespace Draft

variable {draw : Nat → Uuid} {s : Settings} {d : Draft}

/-- The draft lists what the settings describe, under distinct names and the ids drawn so far. -/
structure Listed (draw : Nat → Uuid) (s : Settings) (d : Draft) : Prop where
  ids : (d.specifications.map (·.id) ++ d.styles.map (·.id)).Perm ((List.range d.drawn).map draw)
  specificationNames : (d.specifications.map (·.name)).Nodup
  styleNames : (d.styles.map (·.name)).Nodup
  specifications : ∀ x ∈ d.specifications, x = s.specification x.id x.name
  styles : ∀ x ∈ d.styles, s.style? x.id x.name = some x

theorem listed_empty : Listed draw s {} where
  ids := List.Perm.refl _
  specificationNames := List.nodup_nil
  styleNames := List.nodup_nil
  specifications := by simp
  styles := by simp

theorem Listed.warn (h : d.Listed draw s) (ws : List Warning) (rules : List Rule) :
    Listed draw s { d with warnings := ws, rules } := by
  obtain ⟨hids, hspecificationNames, hstyleNames, hspecifications, hstyles⟩ := h
  exact ⟨hids, hspecificationNames, hstyleNames, hspecifications, hstyles⟩

/-- The next number to be drawn goes with the ids drawn so far. -/
theorem range_succ_perm (n : Nat) {ids : List Uuid} (h : ids.Perm ((List.range n).map draw)) :
    (draw n :: ids).Perm ((List.range (n + 1)).map draw) := by
  rw [List.range_succ, List.map_append]
  exact (h.cons (draw n)).trans (List.perm_append_singleton (draw n) _).symm

theorem not_mem_map_name_of_find?_eq_none {α : Type} {key : α → Text} {l : List α} {name : Text}
    (h : (l.find? fun x => key x = name) = none) : name ∉ l.map key := by
  intro hmem
  obtain ⟨x, hx, hname⟩ := List.mem_map.1 hmem
  simpa [hname] using List.find?_eq_none.1 h x hx

theorem nodup_map_append_singleton {α : Type} {key : α → Text} {l : List α} {x : α}
    (hl : (l.map key).Nodup) (hx : key x ∉ l.map key) : ((l ++ [x]).map key).Nodup := by
  rw [List.map_append, List.nodup_append]
  refine ⟨hl, by simp, fun a ha b hb => ?_⟩
  rw [List.mem_singleton.1 hb]
  rintro rfl
  exact hx ha

/-- A style group without a known capitalization has no style, and no rule before it found one. -/
theorem Listed.withStyle?_eq_none_iff (h : d.Listed draw s) {group : Text} :
    d.withStyle? draw s group = none ↔ s.capitalization? group = none := by
  unfold withStyle?
  cases hfind : d.styles.find? fun style => style.name = group with
  | none => simp [Settings.style?_eq_none_iff]
  | some style =>
    have hname : style.name = group := by simpa using List.find?_some hfind
    have hstyle := h.styles style (List.mem_of_find?_eq_some hfind)
    rw [hname] at hstyle
    refine iff_of_false (by simp) fun hnone => ?_
    rw [Settings.style?_eq_none_iff.2 hnone] at hstyle
    cases hstyle

theorem drawn_addStyle (d : Draft) (style : Style) :
    drawn { d with styles := d.styles ++ [style] } = d.drawn + 1 := by
  simp only [drawn, List.length_append, List.length_singleton]
  omega

theorem drawn_addSpecification (d : Draft) (specification : Specification) :
    drawn { d with specifications := d.specifications ++ [specification] } = d.drawn + 1 := by
  simp only [drawn, List.length_append, List.length_singleton]
  omega

/-- A new style takes the next id, behind those of the specifications and of the styles so far. -/
theorem Listed.addStyle (h : d.Listed draw s) {style : Style}
    (hstyle : s.style? (draw d.drawn) style.name = some style)
    (hname : style.name ∉ d.styles.map (·.name)) :
    Listed draw s { d with styles := d.styles ++ [style] } := by
  obtain ⟨hids, hspecificationNames, hstyleNames, hspecifications, hstyles⟩ := h
  have hid : style.id = draw d.drawn := (Settings.of_style?_eq_some hstyle).1
  refine ⟨?_, hspecificationNames, nodup_map_append_singleton hstyleNames hname, hspecifications,
    ?_⟩
  · rw [drawn_addStyle]
    refine List.Perm.trans ?_ (range_succ_perm _ hids)
    rw [List.map_append, ← List.append_assoc, ← hid]
    exact List.perm_append_comm
  · intro x hx
    rcases List.mem_append.1 hx with hx | hx
    · exact hstyles x hx
    · rw [List.mem_singleton.1 hx, hid]
      exact hstyle

/-- A new specification takes the next id, between those of the specifications so far and of the
styles. -/
theorem Listed.addSpecification (h : d.Listed draw s) {group : Text}
    (hname : group ∉ d.specifications.map (·.name)) :
    Listed draw s { d with
      specifications := d.specifications ++ [s.specification (draw d.drawn) group] } := by
  obtain ⟨hids, hspecificationNames, hstyleNames, hspecifications, hstyles⟩ := h
  refine ⟨?_, nodup_map_append_singleton hspecificationNames hname, hstyleNames, ?_, hstyles⟩
  · rw [drawn_addSpecification]
    refine List.Perm.trans ?_ (range_succ_perm _ hids)
    rw [List.map_append, List.append_assoc]
    exact List.perm_middle
  · intro x hx
    rcases List.mem_append.1 hx with hx | hx
    · exact hspecifications x hx
    · rw [List.mem_singleton.1 hx]
      rfl

/-- Looking a style up leaves it listed, and at most adds it. -/
theorem Listed.withStyle? (h : d.Listed draw s) {group : Text} {style : Style} {d' : Draft}
    (hw : d.withStyle? draw s group = some (style, d')) :
    d'.Listed draw s ∧ style ∈ d'.styles ∧ style.name = group ∧
      (∀ x, x ∈ d'.styles ↔ x ∈ d.styles ∨ x = style) ∧
      d' = { d with styles := d'.styles } := by
  unfold Draft.withStyle? at hw
  cases hfind : d.styles.find? fun style => style.name = group with
  | some found =>
    rw [hfind] at hw
    cases hw
    have hmem := List.mem_of_find?_eq_some hfind
    exact ⟨h, hmem, by simpa using List.find?_some hfind,
      fun x => (or_iff_left_of_imp fun hx => hx ▸ hmem).symm, rfl⟩
  | none =>
    rw [hfind] at hw
    obtain ⟨new, hnew, heq⟩ := Option.map_eq_some_iff.1 hw
    cases heq
    obtain rfl : style.name = group := (Settings.of_style?_eq_some hnew).2
    exact ⟨h.addStyle hnew (not_mem_map_name_of_find?_eq_none hfind), by simp, rfl, by simp, rfl⟩

/-- Looking a specification up leaves it listed, and at most adds it. -/
theorem Listed.withSpecification (h : d.Listed draw s) {group : Text}
    {specification : Specification} {d' : Draft}
    (hw : d.withSpecification draw s group = (specification, d')) :
    d'.Listed draw s ∧ specification ∈ d'.specifications ∧ specification.name = group ∧
      (∀ x, x ∈ d'.specifications ↔ x ∈ d.specifications ∨ x = specification) ∧
      d' = { d with specifications := d'.specifications } := by
  unfold Draft.withSpecification at hw
  cases hfind : d.specifications.find? fun specification => specification.name = group with
  | some found =>
    rw [hfind] at hw
    cases hw
    have hmem := List.mem_of_find?_eq_some hfind
    exact ⟨h, hmem, by simpa using List.find?_some hfind,
      fun x => (or_iff_left_of_imp fun hx => hx ▸ hmem).symm, rfl⟩
  | none =>
    rw [hfind] at hw
    cases hw
    exact ⟨h.addSpecification (not_mem_map_name_of_find?_eq_none hfind), by simp, rfl, by simp, rfl⟩

theorem withSeverity_eq (d : Draft) (s : Settings) (group : Text) :
    d.withSeverity s group =
      (s.severity group, { d with warnings := d.warnings ++ s.severityWarnings group }) := by
  unfold withSeverity Settings.severity Settings.severityWarnings
  cases s.value? (.rule group .severity) with
  | none => simp
  | some token =>
    cases hseverity : (Vocabulary.lookup? token : Option Severity) with
    | none => simp [hseverity, Draft.warn]
    | some severity => simp [hseverity]

/-! ## The run over the rule groups -/

/-- The rule is what the settings say of a rule group, by the names of what it refers to. -/
def Follows (s : Settings) (d : Draft) (group : Text) (rule : Rule) : Prop :=
  ∃ specification ∈ d.specifications, ∃ style ∈ d.styles,
    rule.specificationId = specification.id ∧ rule.styleId = style.id ∧
    (s.value? (.rule group .symbols)).map Text.lowerAscii = some specification.name ∧
    (s.value? (.rule group .style)).map Text.lowerAscii = some style.name ∧
    rule.severity = s.severity group

/-- What holds of the draft when some groups are done: each has left a rule or a warning, and nothing
is listed that no rule refers to. -/
structure Invariant (draw : Nat → Uuid) (s : Settings) (done : List Text) (d : Draft) : Prop
    extends Listed draw s d where
  rules : List.Forall₂ (Follows s d) (done.filter fun group => s.dropWarning? group = none) d.rules
  specification_used : ∀ x ∈ d.specifications, ∃ rule ∈ d.rules, rule.specificationId = x.id
  style_used : ∀ x ∈ d.styles, ∃ rule ∈ d.rules, rule.styleId = x.id
  warnings : d.warnings = done.flatMap s.ruleWarnings

theorem Follows.mono {d' : Draft} (hspecifications : d.specifications ⊆ d'.specifications)
    (hstyles : d.styles ⊆ d'.styles) {group : Text} {rule : Rule} (h : Follows s d group rule) :
    Follows s d' group rule := by
  obtain ⟨specification, hspecification, style, hstyle, hrest⟩ := h
  exact ⟨specification, hspecifications hspecification, style, hstyles hstyle, hrest⟩

/-- A group that is dropped leaves a warning and nothing else. -/
theorem addRule_of_dropped (h : d.Listed draw s) {group : Text} {w : Warning}
    (hw : s.dropWarning? group = some w) : addRule draw s d group = d.warn w := by
  unfold Settings.dropWarning? at hw
  unfold addRule
  cases hsymbols : s.value? (.rule group .symbols) with
  | none =>
    rw [hsymbols] at hw
    cases hw
    rfl
  | some symbols =>
    cases hstyle : s.value? (.rule group .style) with
    | none =>
      rw [hsymbols, hstyle] at hw
      cases hw
      rfl
    | some style =>
      rw [hsymbols, hstyle] at hw
      simp only at hw ⊢
      split at hw
      · cases hw
      · rename_i hnone
        cases hw
        rw [h.withStyle?_eq_none_iff.2 (by simpa using hnone)]

/-- A group that is kept leaves a rule, and what the rule refers to is listed. -/
theorem addRule_of_kept (h : d.Listed draw s) {group : Text}
    (hkept : s.dropWarning? group = none) :
    ∃ specification style, ∃ d' : Draft, addRule draw s d group = d' ∧ d'.Listed draw s ∧
      (∀ x, x ∈ d'.specifications ↔ x ∈ d.specifications ∨ x = specification) ∧
      (∀ x, x ∈ d'.styles ↔ x ∈ d.styles ∨ x = style) ∧
      d'.rules = d.rules ++ [⟨specification.id, style.id, s.severity group⟩] ∧
      d'.warnings = d.warnings ++ s.severityWarnings group ∧
      (s.value? (.rule group .symbols)).map Text.lowerAscii = some specification.name ∧
      (s.value? (.rule group .style)).map Text.lowerAscii = some style.name := by
  obtain ⟨symbols, style, hsymbols, hstyle, hknown⟩ := Settings.dropWarning?_eq_none_iff.1 hkept
  obtain ⟨⟨found, d₁⟩, hd₁⟩ : ∃ r, d.withStyle? draw s (Text.lowerAscii style) = some r := by
    refine Option.ne_none_iff_exists'.1 fun hnone => ?_
    rw [h.withStyle?_eq_none_iff.1 hnone] at hknown
    cases hknown
  obtain ⟨h₁, -, hname₁, hstyles, heq₁⟩ := h.withStyle? hd₁
  rcases hd₂ : d₁.withSpecification draw s (Text.lowerAscii symbols) with ⟨specification, d₂⟩
  obtain ⟨h₂, -, hname₂, hspecifications, heq₂⟩ := h₁.withSpecification hd₂
  refine ⟨specification, found, _, rfl, ?_⟩
  unfold addRule
  rw [hsymbols, hstyle]
  simp only [hd₁, hd₂, withSeverity_eq]
  rw [heq₁] at hspecifications heq₂
  rw [heq₂] at h₂ ⊢
  exact ⟨h₂.warn _ _, hspecifications, hstyles, rfl, rfl, by simp [hname₂], by simp [hname₁]⟩

/-- If some rule refers to each of the entries so far, and the next rule to the entry that is new, some
rule refers to each of the entries then. -/
theorem exists_reference_append_singleton {α : Type} {id : α → Uuid} {reference : Rule → Uuid}
    {rules : List Rule} {rule : Rule} {entries entries' : List α} {entry : α}
    (hused : ∀ x ∈ entries, ∃ r ∈ rules, reference r = id x) (hrule : reference rule = id entry)
    (hentries : ∀ x, x ∈ entries' ↔ x ∈ entries ∨ x = entry) :
    ∀ x ∈ entries', ∃ r ∈ rules ++ [rule], reference r = id x := by
  intro x hx
  rcases (hentries x).1 hx with hx | rfl
  · obtain ⟨r, hr, hid⟩ := hused x hx
    exact ⟨r, List.mem_append_left _ hr, hid⟩
  · exact ⟨rule, List.mem_append_right _ List.mem_cons_self, hrule⟩

/-- One more rule group keeps the invariant. -/
theorem Invariant.addRule {done : List Text} (h : Invariant draw s done d) (group : Text) :
    Invariant draw s (done ++ [group]) (addRule draw s d group) := by
  obtain ⟨hlisted, hrules, hspecificationUsed, hstyleUsed, hwarnings⟩ := h
  cases hdrop : s.dropWarning? group with
  | some w =>
    rw [addRule_of_dropped hlisted hdrop]
    refine ⟨hlisted.warn _ _, ?_, hspecificationUsed, hstyleUsed, ?_⟩
    · rw [List.filter_append, List.filter_cons_of_neg (by simp [hdrop]), List.filter_nil,
        List.append_nil]
      exact hrules
    · simp [Draft.warn, hwarnings, Settings.ruleWarnings, hdrop]
  | none =>
    obtain ⟨specification, style, d', heq, hlisted', hspecifications, hstyles, hrules', hwarnings',
      hsymbols, hstyle⟩ := addRule_of_kept hlisted hdrop
    rw [heq]
    have hmono : ∀ {group rule}, Follows s d group rule → Follows s d' group rule :=
      Follows.mono (fun x hx => (hspecifications x).2 (Or.inl hx))
        fun x hx => (hstyles x).2 (Or.inl hx)
    refine ⟨hlisted', ?_, ?_, ?_, ?_⟩
    · rw [List.filter_append, hrules']
      refine List.rel_append (hrules.imp fun _ _ => hmono) ?_
      rw [List.filter_cons_of_pos (by simpa using hdrop), List.filter_nil]
      refine List.Forall₂.cons ?_ List.Forall₂.nil
      exact ⟨specification, (hspecifications _).2 (Or.inr rfl), style,
        (hstyles _).2 (Or.inr rfl), rfl, rfl, hsymbols, hstyle, rfl⟩
    · rw [hrules']
      exact exists_reference_append_singleton hspecificationUsed rfl hspecifications
    · rw [hrules']
      exact exists_reference_append_singleton hstyleUsed rfl hstyles
    · simp [hwarnings', hwarnings, Settings.ruleWarnings, hdrop]

theorem invariant_empty (draw : Nat → Uuid) (s : Settings) : Invariant draw s [] {} where
  toListed := listed_empty
  rules := List.Forall₂.nil
  specification_used := by simp
  style_used := by simp
  warnings := rfl

/-- The induction is on the groups that are left. -/
theorem Invariant.foldl_addRule {done : List Text} (h : Invariant draw s done d)
    (groups : List Text) :
    Invariant draw s (done ++ groups) (groups.foldl (Draft.addRule draw s) d) := by
  induction groups generalizing done d with
  | nil => simpa using h
  | cons group groups ih =>
    rw [List.foldl_cons, ← List.singleton_append, ← List.append_assoc]
    exact ih (h.addRule group)

/-- Every rule of the draft refers to what the draft lists. -/
theorem Invariant.rules_listed {done : List Text} (h : Invariant draw s done d) :
    ∀ rule ∈ d.rules,
      rule.IsListed (d.specifications.map (·.id)) (d.styles.map (·.id)) := by
  intro rule hrule
  obtain ⟨group, -, specification, hspecification, style, hstyle, hspecificationId, hstyleId, -⟩ :=
    exists_mem_of_forall₂ h.rules hrule
  constructor
  · exact List.mem_map.2 ⟨specification, hspecification, hspecificationId.symm⟩
  · exact List.mem_map.2 ⟨style, hstyle, hstyleId.symm⟩

/-- The invariant holds of the draft of all rule groups. -/
theorem invariant_ofSettings (draw : Nat → Uuid) (s : Settings) :
    Invariant draw s s.ruleGroups (ofSettings draw s) := by
  have h := (invariant_empty draw s).foldl_addRule s.ruleGroups
  rwa [List.nil_append] at h

end Draft

end Nomenclator.Config
