import Nomenclator.Proofs.Json.Records
import Nomenclator.Proofs.Rules.RuleSet
import Nomenclator.Rules.Persistence

/-!
# Rule sets are read as they are written

Every record of a rule set writes all its fields, each under the name by which the reader finds it,
and none twice. So the reader accepts the JSON value of a specification, a style or a rule as what
was written, whatever characters its texts hold, and the value of a rule set as the lists of it. The
lists of a rule set pass the check that they made it by (`RuleSet.ofLists_self`), so the text of a
rule set is read as the rule set (`RuleSet.parse_render`).
-/

namespace Nomenclator

open Json.Reader

/-! ## Parts of records -/

theorem Uuid.accepts_toJson (id : Uuid) : Accepts Uuid.reader 0 id.toJson id := by
  refine accepts_stringAs ?_
  rw [Uuid.resolve, Uuid.parse?_render]

/-! ## Records -/

theorem Specification.accepts_toJson (s : Specification) :
    Accepts Specification.reader 2 s.toJson s := by
  have hfills : Fills SpecificationDraft.fields 1 (("id".toList, s.id.toJson) :: s.choices) {}
      { id := some s.id
        name := some s.name
        kinds := some s.kinds
        accessibilities := some s.accessibilities
        requiredModifiers := some s.requiredModifiers } := by
    refine .cons rfl rfl ((Uuid.accepts_toJson s.id).mono (Nat.zero_le 1)).fieldOf ?_
    refine .cons rfl rfl ((accepts_string s.name).mono (Nat.zero_le 1)).fieldOf ?_
    refine .cons rfl rfl (accepts_members s.kinds).fieldOf ?_
    refine .cons rfl rfl (accepts_members s.accessibilities).fieldOf ?_
    refine .cons rfl rfl (accepts_members s.requiredModifiers).fieldOf ?_
    exact .nil _
  exact accepts_record hfills rfl

theorem Style.accepts_toJson (s : Style) : Accepts Style.reader 1 s.toJson s := by
  have hfills : Fills StyleDraft.fields 0 (("id".toList, s.id.toJson) :: s.appearance) {}
      { id := some s.id
        name := some s.name
        capitalization := some s.capitalization
        requiredPrefix := some s.requiredPrefix
        requiredSuffix := some s.requiredSuffix
        wordSeparator := some s.wordSeparator } := by
    refine .cons rfl rfl (Uuid.accepts_toJson s.id).fieldOf ?_
    refine .cons rfl rfl (accepts_string s.name).fieldOf ?_
    refine .cons rfl rfl (accepts_member s.capitalization).fieldOf ?_
    refine .cons rfl rfl (accepts_string s.requiredPrefix).fieldOf ?_
    refine .cons rfl rfl (accepts_string s.requiredSuffix).fieldOf ?_
    refine .cons rfl rfl (accepts_string s.wordSeparator).fieldOf ?_
    exact .nil _
  exact accepts_record hfills rfl

theorem Rule.accepts_toJson (r : Rule) : Accepts Rule.reader 1 r.toJson r := by
  have hfills : Fills RuleDraft.fields 0
      [("specification_id".toList, r.specificationId.toJson),
        ("style_id".toList, r.styleId.toJson),
        ("severity".toList, Identified.toJson r.severity)] {}
      { specificationId := some r.specificationId
        styleId := some r.styleId
        severity := some r.severity } := by
    refine .cons rfl rfl (Uuid.accepts_toJson r.specificationId).fieldOf ?_
    refine .cons rfl rfl (Uuid.accepts_toJson r.styleId).fieldOf ?_
    refine .cons rfl rfl (accepts_member r.severity).fieldOf ?_
    exact .nil _
  exact accepts_record hfills rfl

/-! ## Rule sets -/

namespace RuleSet

/-- The lists in a rule set. -/
def lists (p : RuleSet) : RuleLists := ⟨p.specifications, p.styles, p.rules⟩

theorem accepts_toJson (p : RuleSet) : Accepts RuleLists.reader 4 p.toJson p.lists := by
  have hspecifications : Accepts (list Specification.reader) 3
      (.array (p.specifications.map Specification.toJson)) p.specifications :=
    accepts_list Specification.accepts_toJson (fun s => Json.opens_object _) p.specifications
  have hstyles : Accepts (list Style.reader) 2 (.array (p.styles.map Style.toJson)) p.styles :=
    accepts_list Style.accepts_toJson (fun s => Json.opens_object _) p.styles
  have hrules : Accepts (list Rule.reader) 2 (.array (p.rules.map Rule.toJson)) p.rules :=
    accepts_list Rule.accepts_toJson (fun r => Json.opens_object _) p.rules
  have hfills : Fills RuleListsDraft.fields 3
      [("specifications".toList, .array (p.specifications.map Specification.toJson)),
        ("styles".toList, .array (p.styles.map Style.toJson)),
        ("rules".toList, .array (p.rules.map Rule.toJson))] {}
      { specifications := some p.specifications
        styles := some p.styles
        rules := some p.rules } := by
    refine .cons rfl rfl hspecifications.fieldOf ?_
    refine .cons rfl rfl (hstyles.mono (by decide)).fieldOf ?_
    refine .cons rfl rfl (hrules.mono (by decide)).fieldOf ?_
    exact .nil _
  exact accepts_record hfills rfl

/-- The text of a rule set is read as the rule set: as the same specifications, styles and rules in
the same order. -/
theorem parse_render (p : RuleSet) : parse p.render = .ok p := by
  have hdocument : document RuleLists.reader p.render = .ok p.lists :=
    (accepts_toJson p).document_render (by decide) .indented
  rw [parse, hdocument]
  show (ofLists p.specifications p.styles p.rules).mapError RuleSetFault.lists = .ok p
  rw [ofLists_self]
  rfl

end RuleSet

end Nomenclator
