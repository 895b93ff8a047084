import Nomenclator.Proofs.Config.Lines
import Nomenclator.Proofs.Config.Renaming

/-!
# Key lines

What a configuration means can be read off its key lines, each taken as a normalized key with its
value: the last value of every recognized key, the last truth value for the showing of suggestions,
and the order in which rule groups are first mentioned. Two lists of key lines that agree on these
(`Agree`) make the same draft and ask for the same showing (`Agree.ofSettings_eq`,
`Agree.showNameSuggestions_eq`).

A recognized key is a normalized text and a `Key` is what it names. One determines the other
(`eq_text_of_parse?`), so it does not matter in which of the two forms values are looked up.
-/

namespace Nomenclator.Config

/-! ## The key lines of a text -/

/-- The normalized key and the value of a key line. -/
def keyLine? (line : Text) : Option (Text × Text) :=
  if isPassedOver (Unicode.trim line) then none
  else
    (Text.splitOnce? '=' (Unicode.trim line)).map fun (key, value) =>
      (normalizeKey key, Unicode.trim value)

/-- The key lines among lines. -/
def keyLines (lines : List Text) : List (Text × Text) := lines.filterMap keyLine?

/-- The key for the showing of suggestions. -/
def showingKey : Text := "show_name_suggestions".toList

/-- The normalized key is one that the reader looks up. -/
def IsRecognized (key : Text) : Prop := ∃ k, Key.parse? key = some k ∧ k.isRead = true

/-- The rule group that a normalized key mentions, be it by a property that no rule has: what stands
between the family and the next dot. -/
def mentionedGroup? (key : Text) : Option Text :=
  (Text.dropPrefix? "naming_rule.".toList key).bind fun rest =>
    (Text.splitOnce? '.' rest).map Prod.fst

/-- The rule group that a key line mentions. -/
def mention? (a : Text × Text) : Option Text := mentionedGroup? a.1

/-- The value on the last line of a normalized key. -/
def lastValueOf? (ks : List (Text × Text)) (key : Text) : Option Text :=
  ((ks.filter fun a => a.1 = key).getLast?).map Prod.snd

/-- The truth value that a key line gives for the showing of suggestions. -/
def showing? (a : Text × Text) : Option Bool :=
  if a.1 = showingKey then truthValue? a.2 else none

/-- The last truth value for the showing of suggestions. -/
def lastShowing? (ks : List (Text × Text)) : Option Bool := (ks.filterMap showing?).getLast?

/-- The rule groups in the order of the first key lines that mention them. -/
def firstMentions (ks : List (Text × Text)) : List Text :=
  distinct (ks.filterMap mention?)

/-- Key lines that give every recognized key the same last value, or none, that end with the same
truth value for the showing of suggestions, and that first mention rule groups in the same order. -/
structure Agree (ks ks' : List (Text × Text)) : Prop where
  values : ∀ key, IsRecognized key → lastValueOf? ks key = lastValueOf? ks' key
  showing : lastShowing? ks = lastShowing? ks'
  mentions : firstMentions ks = firstMentions ks'

namespace Agree

variable {ks ks' ks'' : List (Text × Text)}

theorem refl (ks : List (Text × Text)) : Agree ks ks := ⟨fun _ _ => rfl, rfl, rfl⟩

theorem of_eq (h : ks = ks') : Agree ks ks' := h ▸ Agree.refl ks

theorem symm (h : Agree ks ks') : Agree ks' ks :=
  ⟨fun key hkey => (h.values key hkey).symm, h.showing.symm, h.mentions.symm⟩

theorem trans (h : Agree ks ks') (h' : Agree ks' ks'') : Agree ks ks'' :=
  ⟨fun key hkey => (h.values key hkey).trans (h'.values key hkey), h.showing.trans h'.showing,
    h.mentions.trans h'.mentions⟩

end Agree

/-! ## Keys and their texts -/

/-- The name of a property of a rule group. -/
def RuleProperty.name : RuleProperty → Text
  | .symbols => "symbols".toList
  | .style => "style".toList
  | .severity => "severity".toList
  | .other => []

/-- The name of a property of a symbols group. -/
def SymbolsProperty.name : SymbolsProperty → Text
  | .kinds => "applicable_kinds".toList
  | .accessibilities => "applicable_accessibilities".toList
  | .modifiers => "required_modifiers".toList

/-- The name of a property of a style group. -/
def StyleProperty.name : StyleProperty → Text
  | .capitalization => "capitalization".toList
  | .requiredPrefix => "required_prefix".toList
  | .requiredSuffix => "required_suffix".toList
  | .wordSeparator => "word_separator".toList

/-- The normalized text of a key. -/
def Key.text : Key → Text
  | .rule group property => "naming_rule".toList ++ '.' :: (group ++ '.' :: property.name)
  | .symbols group property => "naming_symbols".toList ++ '.' :: (group ++ '.' :: property.name)
  | .style group property => "naming_style".toList ++ '.' :: (group ++ '.' :: property.name)

theorem RuleProperty.eq_name_of_ofName {name : Text} {property : RuleProperty}
    (h : ofName name = property) (hread : property ≠ .other) : name = property.name := by
  unfold ofName at h
  split at h
  · subst h
    assumption
  · split at h
    · subst h
      assumption
    · split at h
      · subst h
        assumption
      · exact absurd h.symm hread

theorem SymbolsProperty.eq_name_of_ofName? {name : Text} {property : SymbolsProperty}
    (h : ofName? name = some property) : name = property.name := by
  unfold ofName? at h
  repeat' split at h
  all_goals cases h
  all_goals assumption

theorem StyleProperty.eq_name_of_ofName? {name : Text} {property : StyleProperty}
    (h : ofName? name = some property) : name = property.name := by
  unfold ofName? at h
  repeat' split at h
  all_goals cases h
  all_goals assumption

/-- A key that is looked up has one normalized text only. -/
theorem eq_text_of_parse? {t : Text} {k : Key} (h : Key.parse? t = some k)
    (hread : k.isRead = true) : t = k.text := by
  obtain ⟨⟨family, rest⟩, hfamily, h⟩ := Option.bind_eq_some_iff.1 h
  obtain ⟨⟨group, property⟩, hgroup, h⟩ := Option.bind_eq_some_iff.1 h
  rw [(Text.splitOnce?_eq_some_iff.1 hfamily).1, (Text.splitOnce?_eq_some_iff.1 hgroup).1]
  simp only at h
  by_cases hrule : family = "naming_rule".toList
  · rw [if_pos hrule] at h
    cases h
    have hproperty : RuleProperty.ofName property ≠ .other := by
      intro hother
      rw [hother] at hread
      cases hread
    show _ = "naming_rule".toList ++ '.' :: (group ++ '.' :: (RuleProperty.ofName property).name)
    rw [hrule, ← RuleProperty.eq_name_of_ofName rfl hproperty]
  · rw [if_neg hrule] at h
    by_cases hsymbols : family = "naming_symbols".toList
    · rw [if_pos hsymbols] at h
      obtain ⟨q, hq, rfl⟩ := Option.map_eq_some_iff.1 h
      show _ = "naming_symbols".toList ++ '.' :: (group ++ '.' :: q.name)
      rw [hsymbols, ← SymbolsProperty.eq_name_of_ofName? hq]
    · rw [if_neg hsymbols] at h
      by_cases hstyle : family = "naming_style".toList
      · rw [if_pos hstyle] at h
        obtain ⟨q, hq, rfl⟩ := Option.map_eq_some_iff.1 h
        show _ = "naming_style".toList ++ '.' :: (group ++ '.' :: q.name)
        rw [hstyle, ← StyleProperty.eq_name_of_ofName? hq]
      · rw [if_neg hstyle] at h
        cases h

theorem parse?_showingKey : Key.parse? showingKey = none := by decide

theorem RuleProperty.ofName_name {property : RuleProperty} (hread : property ≠ .other) :
    ofName property.name = property := by
  cases property with
  | symbols | style | severity => decide
  | other => exact absurd rfl hread

theorem SymbolsProperty.ofName?_name (property : SymbolsProperty) :
    ofName? property.name = some property := by
  cases property <;> decide

theorem StyleProperty.ofName?_name (property : StyleProperty) :
    ofName? property.name = some property := by
  cases property <;> decide

section Spelling

variable {family group : Text}

theorem parse?_append (hfamily : '.' ∉ family) (hgroup : '.' ∉ group) (property : Text) :
    Key.parse? (family ++ '.' :: (group ++ '.' :: property)) =
      if family = "naming_rule".toList then some (.rule group (.ofName property))
      else if family = "naming_symbols".toList then
        (SymbolsProperty.ofName? property).map (.symbols group)
      else if family = "naming_style".toList then
        (StyleProperty.ofName? property).map (.style group)
      else none := by
  simp only [Key.parse?, Text.splitOnce?_append_cons hfamily, Text.splitOnce?_append_cons hgroup,
    Option.bind_some]

theorem parse?_rule (hgroup : '.' ∉ group) (property : Text) :
    Key.parse? ("naming_rule".toList ++ '.' :: (group ++ '.' :: property)) =
      some (.rule group (.ofName property)) := by
  rw [parse?_append (by decide) hgroup, if_pos rfl]

theorem parse?_symbols (hgroup : '.' ∉ group) (property : Text) :
    Key.parse? ("naming_symbols".toList ++ '.' :: (group ++ '.' :: property)) =
      (SymbolsProperty.ofName? property).map (.symbols group) := by
  rw [parse?_append (by decide) hgroup, if_neg (by decide), if_pos rfl]

theorem parse?_style (hgroup : '.' ∉ group) (property : Text) :
    Key.parse? ("naming_style".toList ++ '.' :: (group ++ '.' :: property)) =
      (StyleProperty.ofName? property).map (.style group) := by
  rw [parse?_append (by decide) hgroup, if_neg (by decide), if_neg (by decide), if_pos rfl]

end Spelling

/-- The text of a key names the key unless its group has a dot, at which the group would end. -/
theorem parse?_text_iff {k : Key} (hread : k.isRead = true) :
    Key.parse? k.text = some k ↔ '.' ∉ k.group := by
  constructor
  · intro h
    obtain ⟨-, -, hfree⟩ := exists_eq_of_parse? h
    exact hfree
  · intro hfree
    cases k with
    | rule group property =>
      have hproperty : property ≠ .other := by
        rintro rfl
        cases hread
      refine (parse?_rule hfree property.name).trans ?_
      rw [RuleProperty.ofName_name hproperty]
      rfl
    | symbols group property =>
      refine (parse?_symbols hfree property.name).trans ?_
      rw [SymbolsProperty.ofName?_name]
      rfl
    | style group property =>
      refine (parse?_style hfree property.name).trans ?_
      rw [StyleProperty.ofName?_name]
      rfl

/-- A key mentions the rule group that it names. -/
theorem mentionedGroup?_eq_some_iff {key group : Text} :
    mentionedGroup? key = some group ↔ ∃ property, Key.parse? key = some (.rule group property) := by
  unfold mentionedGroup?
  rw [Option.bind_eq_some_iff]
  constructor
  · rintro ⟨rest, hrest, hgroup⟩
    obtain ⟨⟨group', property⟩, hcut, rfl⟩ := Option.map_eq_some_iff.1 hgroup
    obtain ⟨rfl, hfree⟩ := Text.splitOnce?_eq_some_iff.1 hcut
    rw [Text.dropPrefix?_eq_some_iff.1 hrest]
    exact ⟨.ofName property, parse?_rule hfree property⟩
  · rintro ⟨property, hparse⟩
    obtain ⟨name, hkey, hfree⟩ := exists_eq_of_parse? hparse
    have hgroup : '.' ∉ group := hfree
    refine ⟨group ++ '.' :: name, Text.dropPrefix?_eq_some_iff.2 hkey, ?_⟩
    rw [Text.splitOnce?_append_cons hgroup, Option.map_some]

/-! ## What the reader makes of key lines -/

/-- The key and the value that a key line sets. -/
def setting? (a : Text × Text) : Option (Key × Text) := (Key.parse? a.1).map fun k => (k, a.2)

theorem assignment?_read (line : Text) :
    (Line.read line).assignment? = (keyLine? line).bind setting? := by
  unfold Line.read keyLine?
  simp only
  split
  · rfl
  · cases Text.splitOnce? '=' (Unicode.trim line) with
    | none => rfl
    | some cut =>
      obtain ⟨key, value⟩ := cut
      simp only [Option.map_some, Option.bind_some, setting?]
      split
      · rename_i hkey
        rw [hkey]
        exact congrArg (Option.map _) parse?_showingKey.symm
      · cases Key.parse? (normalizeKey key) with
        | none => rfl
        | some k => rfl

theorem assignments_eq (t : Text) :
    assignments t = (keyLines (Text.lines t)).filterMap setting? := by
  rw [assignments, keyLines, List.filterMap_filterMap]
  exact List.filterMap_congr fun line _ => assignment?_read line

/-- Rule groups are mentioned by normalized keys. -/
theorem ruleGroups_ofText (t : Text) :
    (Settings.ofText t).ruleGroups = firstMentions (keyLines (Text.lines t)) := by
  rw [Settings.ruleGroups, values_ofText, assignments_eq, firstMentions, List.filterMap_filterMap]
  refine congrArg distinct (List.filterMap_congr fun a _ => Option.ext fun group => ?_)
  rw [mention?, mentionedGroup?_eq_some_iff, setting?]
  cases Key.parse? a.1 with
  | none => simp
  | some k => cases k <;> simp [Settings.ruleGroup?]

theorem filter_setting? (ks : List (Text × Text)) (k : Key) :
    (ks.filterMap setting?).filter (fun a => a.1 = k) =
      (ks.filter fun a => Key.parse? a.1 = some k).map fun a => (k, a.2) := by
  induction ks with
  | nil => rfl
  | cons a ks ih =>
    cases h : Key.parse? a.1 with
    | none => simp [setting?, h, ih]
    | some k' =>
      by_cases hk : k' = k
      · simp [setting?, h, hk, ih]
      · simp [setting?, h, hk, ih]

theorem lookup_eq_find? {κ β : Type} [DecidableEq κ] (l : List (κ × β)) (key : κ) :
    l.lookup key = (l.find? fun a => a.1 = key).map Prod.snd := by
  induction l with
  | nil => rfl
  | cons a l ih =>
    obtain ⟨k, v⟩ := a
    by_cases h : k = key
    · simp [h]
    · have hkey : (key == k) = false := by simpa using Ne.symm h
      simp [List.lookup_cons, h, hkey, ih]

/-- Looking a key up from the back finds its last value. The key can be told by its text, unless its
group has a dot; then no line sets it. -/
theorem value?_ofText (t : Text) {k : Key} (hread : k.isRead = true) :
    (Settings.ofText t).value? k =
      if '.' ∈ k.group then none else lastValueOf? (keyLines (Text.lines t)) k.text := by
  have hname : ∀ a : Text × Text,
      Key.parse? a.1 = some k ↔ '.' ∉ k.group ∧ a.1 = k.text := by
    intro a
    constructor
    · intro h
      have heq := eq_text_of_parse? h hread
      exact ⟨(parse?_text_iff hread).1 (heq ▸ h), heq⟩
    · rintro ⟨hfree, heq⟩
      rw [heq, (parse?_text_iff hread).2 hfree]
  rw [Settings.value?, values_ofText, lookup_eq_find?, ← List.head?_filter, List.filter_reverse,
    List.head?_reverse, assignments_eq, filter_setting?, List.getLast?_map, Option.map_map]
  by_cases hdot : '.' ∈ k.group
  · have hfilter : ((keyLines (Text.lines t)).filter fun a => Key.parse? a.1 = some k) = [] :=
      List.filter_eq_nil_iff.2 fun a _ => by simpa using fun h => ((hname a).1 h).1 hdot
    rw [if_pos hdot, hfilter]
    rfl
  · have hfilter : ((keyLines (Text.lines t)).filter fun a => Key.parse? a.1 = some k) =
        (keyLines (Text.lines t)).filter fun a => a.1 = k.text :=
      List.filter_congr fun a _ => decide_eq_decide.2 ((hname a).trans (and_iff_right hdot))
    rw [if_neg hdot, hfilter]
    rfl

/-- The value that a text gives to a property of a group: that of the last key line with this family,
group and property. A group ends at the first dot, so no key line is on a group with a dot in it. -/
def groupValue? (t : Text) (family : String) (group : Text) (property : String) : Option Text :=
  if '.' ∈ group then none
  else
    lastValueOf? (keyLines (Text.lines t))
      (family.toList ++ '.' :: (group ++ '.' :: property.toList))

/-- What the reader looks up is the value of a property of a group. -/
theorem value?_eq_groupValue? (t : Text) {k : Key} (hread : k.isRead = true)
    {family property : String}
    (htext : k.text = family.toList ++ '.' :: (k.group ++ '.' :: property.toList)) :
    (Settings.ofText t).value? k = groupValue? t family k.group property := by
  rw [value?_ofText t hread, htext, groupValue?]

/-- The truth value that a line gives for the showing of suggestions. -/
def Line.showing? : Line → Option Bool
  | .showNameSuggestions value => truthValue? value
  | _ => none

theorem showing?_read (line : Text) :
    (Line.read line).showing? = (keyLine? line).bind Config.showing? := by
  unfold Line.read keyLine?
  simp only
  split
  · rfl
  · cases Text.splitOnce? '=' (Unicode.trim line) with
    | none => rfl
    | some cut =>
      obtain ⟨key, value⟩ := cut
      simp only [Option.map_some, Option.bind_some]
      by_cases hkey : normalizeKey key = showingKey
      · rw [Config.showing?, if_pos hkey]
        exact congrArg Line.showing? (if_pos hkey)
      · rw [Config.showing?, if_neg hkey]
        refine (congrArg Line.showing? (if_neg hkey)).trans ?_
        cases Key.parse? (normalizeKey key) <;> rfl

theorem showNameSuggestions_add (s : Settings) (number : Nat) (line : Line) :
    (s.add number line).showNameSuggestions = line.showing?.or s.showNameSuggestions := by
  cases line with
  | silent | unassigned | setting => rfl
  | showNameSuggestions value =>
    simp only [Settings.add, Line.showing?]
    cases truthValue? value <;> rfl

/-- The induction is on the lines that are left. -/
theorem showNameSuggestions_addLines (s : Settings) (number : Nat) (lines : List Text) :
    (s.addLines number lines).showNameSuggestions =
      (lastShowing? (keyLines lines)).or s.showNameSuggestions := by
  induction lines generalizing s number with
  | nil => rfl
  | cons line lines ih =>
    rw [Settings.addLines, ih, showNameSuggestions_add, showing?_read]
    unfold lastShowing? keyLines
    cases hline : keyLine? line with
    | none => simp [hline]
    | some a =>
      cases ha : Config.showing? a with
      | none => simp [hline, ha]
      | some b =>
        rw [List.filterMap_cons_some hline, List.filterMap_cons_some ha, List.getLast?_cons]
        cases ((lines.filterMap keyLine?).filterMap Config.showing?).getLast? <;> simp [ha]

theorem showNameSuggestions_ofText (t : Text) :
    (Settings.ofText t).showNameSuggestions = lastShowing? (keyLines (Text.lines t)) := by
  rw [Settings.ofText, showNameSuggestions_addLines, Option.or_none]

/-! ## Texts that agree -/

namespace Agree

variable {t t' : Text}

theorem showNameSuggestions_eq (h : Agree (keyLines (Text.lines t)) (keyLines (Text.lines t'))) :
    (Settings.ofText t).showNameSuggestions = (Settings.ofText t').showNameSuggestions := by
  rw [showNameSuggestions_ofText, showNameSuggestions_ofText, h.showing]

theorem value?_eq (h : Agree (keyLines (Text.lines t)) (keyLines (Text.lines t'))) (k : Key)
    (hread : k.isRead = true) : (Settings.ofText t).value? k = (Settings.ofText t').value? k := by
  rw [value?_ofText t hread, value?_ofText t' hread]
  split
  · rfl
  · rename_i hfree
    exact h.values k.text ⟨k, (parse?_text_iff hread).2 hfree, hread⟩

/-- Texts that agree make the same draft with the same ids. -/
theorem ofSettings_eq (h : Agree (keyLines (Text.lines t)) (keyLines (Text.lines t')))
    (draw : Nat → Uuid) :
    Draft.ofSettings draw (Settings.ofText t) = Draft.ofSettings draw (Settings.ofText t') := by
  refine Draft.ofSettings_congr h.value?_eq ?_ draw
  rw [ruleGroups_ofText, ruleGroups_ofText, h.mentions]

end Agree

end Nomenclator.Config
