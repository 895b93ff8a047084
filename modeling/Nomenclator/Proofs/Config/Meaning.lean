import Mathlib.Data.List.Nodup
import Nomenclator.Proofs.Config.Editing
import Nomenclator.Proofs.Config.Reading

/-!
# The meaning of a configuration

Two texts mean the same if they are read as the same configuration, whatever distinct ids are drawn
for the one and for the other: the showing of suggestions is the same, and so are specifications,
styles and rules, up to a renaming of the ids (`NamingConfig.SameMeaning`).

Nothing but the last values of recognized keys, the last truth value for the showing of suggestions
and the order of the rule groups goes into the meaning; so it survives all edits of `Config.Edit`,
and carriage returns at the ends of lines (`NamingConfig.sameMeaning_spec`).
-/

namespace Nomenclator

open Config

/-! ## The ids of a draft -/

namespace Config.Draft

variable {draw draw' : Nat → Uuid} {s : Settings} {d : Draft}

/-- Some renaming takes the ids drawn by one to those drawn by another. -/
theorem exists_renaming {n : Nat} (hdraw : ((List.range n).map draw).Nodup) (draw' : Nat → Uuid) :
    ∃ f : Uuid → Uuid, ∀ i < n, f (draw i) = draw' i := by
  refine ⟨fun id => draw' (((List.range n).map draw).idxOf id), fun i hi => ?_⟩
  have hlen : i < ((List.range n).map draw).length := by simpa using hi
  have hplace := hdraw.idxOf_getElem i hlen
  simp only [List.getElem_map, List.getElem_range] at hplace
  exact congrArg draw' hplace

/-- The renaming tells apart what a draft lists, if the other ids are distinct, too. -/
theorem Listed.injective_renaming (h : d.Listed draw s) {f : Uuid → Uuid}
    (hf : ∀ i < d.drawn, f (draw i) = draw' i)
    (hdraw' : ((List.range d.drawn).map draw').Nodup) :
    ∀ x ∈ d.specifications.map (·.id) ++ d.styles.map (·.id),
      ∀ y ∈ d.specifications.map (·.id) ++ d.styles.map (·.id), f x = f y → x = y := by
  intro x hx y hy hxy
  obtain ⟨i, hi, rfl⟩ := List.mem_map.1 (h.ids.mem_iff.1 hx)
  obtain ⟨j, hj, rfl⟩ := List.mem_map.1 (h.ids.mem_iff.1 hy)
  rw [hf i (List.mem_range.1 hi), hf j (List.mem_range.1 hj)] at hxy
  exact congrArg draw (List.inj_on_of_nodup_map hdraw' hi hj hxy)

end Config.Draft

/-! ## Reading -/

namespace NamingConfig

variable {draw draw' : Nat → Uuid} {t t' : Text}

/-- No id is drawn twice for the text. -/
def DrawsDistinct (draw : Nat → Uuid) (t : Text) : Prop :=
  ((List.range (Draft.ofSettings draw (Settings.ofText t)).drawn).map draw).Nodup

instance (draw : Nat → Uuid) (t : Text) : Decidable (DrawsDistinct draw t) :=
  inferInstanceAs (Decidable (List.Nodup _))

/-- The second configuration is the first with its ids renamed, and different ids stay different. -/
structure RenamedBy (f : Uuid → Uuid) (c c' : NamingConfig) : Prop where
  showNameSuggestions : c'.showNameSuggestions = c.showNameSuggestions
  specifications : c'.rules.specifications = c.rules.specifications.map (Specification.rename f)
  styles : c'.rules.styles = c.rules.styles.map (Style.rename f)
  rules : c'.rules.rules = c.rules.rules.map (Rule.rename f)
  injective : ∀ x ∈ c.rules.specifications.map (·.id) ++ c.rules.styles.map (·.id),
    ∀ y ∈ c.rules.specifications.map (·.id) ++ c.rules.styles.map (·.id), f x = f y → x = y

/-- The texts are read as one configuration, up to a renaming of the ids drawn. -/
def SameMeaning (t t' : Text) : Prop :=
  ∀ draw draw', DrawsDistinct draw t → DrawsDistinct draw' t' →
    ∃ c c' f, (read draw t).1 = .ok c ∧ (read draw' t').1 = .ok c' ∧ RenamedBy f c c'

theorem sameMeaning_of_agree (h : Agree (keyLines (Text.lines t)) (keyLines (Text.lines t'))) :
    SameMeaning t t' := by
  intro draw draw' hdraw hdraw'
  obtain ⟨f, hf⟩ := Draft.exists_renaming hdraw draw'
  have hrename := Draft.ofSettings_rename hf
  rw [h.ofSettings_eq draw'] at hrename
  obtain ⟨c, hc, hshowing, hspecifications, hstyles, hrules⟩ := exists_read_eq_ok hdraw
  obtain ⟨c', hc', hshowing', hspecifications', hstyles', hrules'⟩ := exists_read_eq_ok hdraw'
  refine ⟨c, c', f, hc, hc', ?_, ?_, ?_, ?_, ?_⟩
  · rw [hshowing, hshowing', h.showNameSuggestions_eq]
  · rw [hspecifications, hspecifications', hrename]
    rfl
  · rw [hstyles, hstyles', hrename]
    rfl
  · rw [hrules, hrules', hrename]
    rfl
  · rw [DrawsDistinct, hrename, Draft.drawn_rename] at hdraw'
    rw [hspecifications, hstyles]
    exact (Draft.invariant_ofSettings draw _).toListed.injective_renaming hf hdraw'

/-- The meaning of a configuration depends on nothing but the last values of recognized keys, the last
truth value for the showing of suggestions and the order in which rule groups are first mentioned. In
particular it does not depend on what edits change, nor on carriage returns. -/
theorem sameMeaning_spec (t t' : Text) :
    (Agree (keyLines (Text.lines t)) (keyLines (Text.lines t')) → SameMeaning t t') ∧
      (Relation.EqvGen Edit (Text.lines t) (Text.lines t') → SameMeaning t t') ∧
      SameMeaning t (withCarriageReturns t) :=
  ⟨sameMeaning_of_agree, fun h => sameMeaning_of_agree (agree_of_edits h),
    sameMeaning_of_agree (Agree.of_eq (keyLines_lines_withCarriageReturns t))⟩

/-- A rule and its style. -/
def plainRule : Text :=
  ("naming_rule.a.symbols=S\nnaming_rule.a.style=P\nnaming_style.p.capitalization=all_lower").toList

/-- The same behind a comment, with a prefix, a capital and a space, and with the last two lines in
the other order. -/
def editedRule : Text :=
  ("# small letters\ndotnet_naming_rule.a.symbols= S\nNaming_style.p.capitalization=all_lower\n"
    ++ "naming_rule.a.style=P\n").toList

theorem edits_plainRule :
    Relation.EqvGen Edit (Text.lines plainRule) (Text.lines editedRule) := by
  have hsymbols : IsKeySpelling "naming_rule.a.symbols".toList :=
    ⟨by decide +kernel, by decide +kernel⟩
  have hmarked : IsKeySpelling ("dotnet_".toList ++ "naming_rule.a.symbols".toList) :=
    ⟨by decide +kernel, by decide +kernel⟩
  have hstyle : IsKeySpelling "naming_rule.a.style".toList :=
    ⟨by decide +kernel, by decide +kernel⟩
  have hsmall : IsKeySpelling "naming_style.p.capitalization".toList :=
    ⟨by decide +kernel, by decide +kernel⟩
  have hcapital : IsKeySpelling "Naming_style.p.capitalization".toList :=
    ⟨by decide +kernel, by decide +kernel⟩
  have hexchange := @Edit.exchanged ["naming_rule.a.symbols".toList ++ '=' :: "S".toList] []
    _ _ "P".toList "all_lower".toList hstyle hsmall (by decide +kernel) (by decide +kernel)
  have hcase := @Edit.respelled ["naming_rule.a.symbols".toList ++ '=' :: "S".toList]
    ["naming_rule.a.style".toList ++ '=' :: "P".toList] _ _ "all_lower".toList "all_lower".toList
    hsmall hcapital (.letterCase (by decide +kernel)) rfl
  have hmark := @Edit.respelled []
    ["Naming_style.p.capitalization".toList ++ '=' :: "all_lower".toList,
      "naming_rule.a.style".toList ++ '=' :: "P".toList] _ _ "S".toList " S".toList
    hsymbols hmarked (.marked (by decide +kernel) (by decide +kernel)) (by decide +kernel)
  have hcomment := @Edit.passedOver []
    ["dotnet_".toList ++ "naming_rule.a.symbols".toList ++ '=' :: " S".toList,
      "Naming_style.p.capitalization".toList ++ '=' :: "all_lower".toList,
      "naming_rule.a.style".toList ++ '=' :: "P".toList]
    "# small letters".toList (by decide +kernel)
  have hplain : Text.lines plainRule =
      ["naming_rule.a.symbols".toList ++ '=' :: "S".toList,
        "naming_rule.a.style".toList ++ '=' :: "P".toList,
        "naming_style.p.capitalization".toList ++ '=' :: "all_lower".toList] := by decide +kernel
  have hedited : Text.lines editedRule =
      ["# small letters".toList,
        "dotnet_".toList ++ "naming_rule.a.symbols".toList ++ '=' :: " S".toList,
        "Naming_style.p.capitalization".toList ++ '=' :: "all_lower".toList,
        "naming_rule.a.style".toList ++ '=' :: "P".toList] := by decide +kernel
  rw [hplain, hedited]
  exact .trans _ _ _ (.rel _ _ hexchange) (.trans _ _ _ (.rel _ _ hcase)
    (.trans _ _ _ (.rel _ _ hmark) (.symm _ _ (.rel _ _ hcomment))))

/-- They mean the same, with or without carriage returns: one rule, whatever ids are drawn. -/
theorem sameMeaning_spec_plainRule :
    Agree (keyLines (Text.lines plainRule)) (keyLines (Text.lines editedRule)) ∧
      Relation.EqvGen Edit (Text.lines plainRule) (Text.lines editedRule) ∧
      SameMeaning plainRule editedRule ∧ SameMeaning editedRule (withCarriageReturns editedRule) ∧
      DrawsDistinct Uuid.ofNat plainRule ∧
      DrawsDistinct (fun n => Uuid.ofNat (n + 5)) editedRule ∧
      ∃ c c' f, (read Uuid.ofNat plainRule).1 = .ok c ∧
        (read (fun n => Uuid.ofNat (n + 5)) editedRule).1 = .ok c' ∧ RenamedBy f c c' := by
  have hplain : DrawsDistinct Uuid.ofNat plainRule := by decide +kernel
  have hedited : DrawsDistinct (fun n => Uuid.ofNat (n + 5)) editedRule := by decide +kernel
  have hagree := agree_of_edits edits_plainRule
  have hsame : SameMeaning plainRule editedRule := (sameMeaning_spec _ _).1 hagree
  exact ⟨hagree, edits_plainRule, (sameMeaning_spec _ _).2.1 edits_plainRule,
    (sameMeaning_spec _ plainRule).2.2, hplain, hedited, hsame _ _ hplain hedited⟩

end NamingConfig

end Nomenclator
