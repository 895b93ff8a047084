import Nomenclator.Rules.Specification
import Nomenclator.Style.Basic
import Nomenclator.Vocabulary.Severity

/-!
# Rule sets

A rule set is an ordered list of rules together with the specifications and the styles they refer
to. Specifications are told apart by their ids, and so are styles. For every rule the places of its
specification and its style are kept, and rules are looked up by these places: `RuleSet.ofLists` finds
them once, and the type keeps that they are the places of the ids.

Main definitions: `RuleSet`, `RuleSet.ofLists`, `RuleSet.governingRule?`.
-/

namespace Nomenclator

/-- A rule: the symbols of a specification are named in a style, or else it is reported. -/
structure Rule where
  specificationId : Uuid
  styleId : Uuid
  severity : Severity := default
  deriving DecidableEq, Repr

/-- Why lists of specifications, styles and rules make no rule set. -/
inductive RuleSetError
  | duplicateSpecification (id : Uuid)
  | duplicateStyle (id : Uuid)
  | unknownSpecification (index : Nat) (id : Uuid)
  | unknownStyle (index : Nat) (id : Uuid)
  deriving DecidableEq, Repr

/-- The wording of the error. -/
def RuleSetError.message : RuleSetError → Text
  | .duplicateSpecification id =>
    "symbol specification id ".toList ++ id.render ++ " is used more than once".toList
  | .duplicateStyle id =>
    "naming style id ".toList ++ id.render ++ " is used more than once".toList
  | .unknownSpecification index id =>
    "naming rule #".toList ++ (toString index).toList
      ++ " references unknown symbol specification ".toList ++ id.render
  | .unknownStyle index id =>
    "naming rule #".toList ++ (toString index).toList
      ++ " references unknown naming style ".toList ++ id.render

/-! ## Checking the lists -/

/-- The first id that is among the ids before it or among those already seen. -/
def firstRepeat? (seen : List Uuid) : List Uuid → Option Uuid
  | [] => none
  | id :: ids => if id ∈ seen then some id else firstRepeat? (id :: seen) ids

theorem firstRepeat?_eq_none_iff {seen ids : List Uuid} :
    firstRepeat? seen ids = none ↔ ids.Nodup ∧ ∀ id ∈ ids, id ∉ seen := by
  induction ids generalizing seen with
  | nil => simp [firstRepeat?]
  | cons id ids ih =>
    by_cases h : id ∈ seen
    · simp [firstRepeat?, h]
    · simp only [firstRepeat?, if_neg h, ih, List.nodup_cons, List.mem_cons, not_or]
      constructor
      · rintro ⟨hnodup, hall⟩
        refine ⟨⟨fun hmem => (hall id hmem).1 rfl, hnodup⟩, ?_⟩
        rintro x (rfl | hx)
        · exact h
        · exact (hall x hx).2
      · rintro ⟨⟨hid, hnodup⟩, hall⟩
        refine ⟨hnodup, fun x hx => ⟨?_, hall x (Or.inr hx)⟩⟩
        rintro rfl
        exact hid hx

/-! ## Finding what rules refer to -/

/-- The places of the specification and the style that a rule refers to, or else that one of them, the
specification first, is not listed. The index is that of the rule. -/
def Rule.locate (specifications : List Specification) (styles : List Style) (index : Nat)
    (rule : Rule) : Except RuleSetError (Nat × Nat) :=
  match specifications.findIdx? fun s => s.id = rule.specificationId with
  | none => .error (.unknownSpecification index rule.specificationId)
  | some specification =>
    match styles.findIdx? fun s => s.id = rule.styleId with
    | none => .error (.unknownStyle index rule.styleId)
    | some style => .ok (specification, style)

/-- The places for each rule, the rules counted from `index`, or the first reference to nothing. -/
def locateFrom (specifications : List Specification) (styles : List Style) (index : Nat) :
    List Rule → Except RuleSetError (List (Nat × Nat))
  | [] => .ok []
  | rule :: rules =>
    match rule.locate specifications styles index with
    | .error e => .error e
    | .ok places => (locateFrom specifications styles (index + 1) rules).map (places :: ·)

/-! ## The rule set -/

/-- Rules in order, with the specifications and styles that they refer to. -/
structure RuleSet where
  specifications : List Specification
  styles : List Style
  rules : List Rule
  /-- For each rule the places of its specification and its style in their lists. -/
  references : List (Nat × Nat)
  specificationIds_nodup : (specifications.map (·.id)).Nodup
  styleIds_nodup : (styles.map (·.id)).Nodup
  references_located : locateFrom specifications styles 0 rules = .ok references
  deriving DecidableEq

/-- A rule with the specification and the style that it refers to. -/
structure ResolvedRule where
  specification : Specification
  style : Style
  severity : Severity
  deriving DecidableEq, Repr

namespace RuleSet

/-- The rule set of these lists, or the first thing wrong with them: a repeated specification, a
repeated style, a reference to nothing. -/
def ofLists (specifications : List Specification) (styles : List Style) (rules : List Rule) :
    Except RuleSetError RuleSet :=
  match hspec : firstRepeat? [] (specifications.map (·.id)) with
  | some id => .error (.duplicateSpecification id)
  | none =>
    match hstyle : firstRepeat? [] (styles.map (·.id)) with
    | some id => .error (.duplicateStyle id)
    | none =>
      match hrule : locateFrom specifications styles 0 rules with
      | .error e => .error e
      | .ok references => .ok
          { specifications, styles, rules, references
            specificationIds_nodup := (firstRepeat?_eq_none_iff.1 hspec).1
            styleIds_nodup := (firstRepeat?_eq_none_iff.1 hstyle).1
            references_located := hrule }

/-- The rule set without rules. -/
def empty : RuleSet where
  specifications := []
  styles := []
  rules := []
  references := []
  specificationIds_nodup := by simp
  styleIds_nodup := by simp
  references_located := rfl

/-- There are no rules. -/
def isEmpty (p : RuleSet) : Bool := p.rules.isEmpty

/-- What stands at the places that are kept for a rule, with its severity. -/
def atPlaces? (p : RuleSet) (rule : Rule) (places : Nat × Nat) : Option ResolvedRule :=
  p.specifications[places.1]?.bind fun specification =>
    p.styles[places.2]?.map fun style => { specification, style, severity := rule.severity }

/-- The rules in order with what stands at their places. -/
def resolvedRules (p : RuleSet) : List ResolvedRule :=
  (p.rules.zip p.references).filterMap fun (rule, places) => p.atPlaces? rule places

/-- The first rule whose specification chooses the symbol. -/
def governingRule? (p : RuleSet) (symbol : Symbol) : Option ResolvedRule :=
  p.resolvedRules.find? fun rule => rule.specification.appliesTo symbol

end RuleSet

end Nomenclator
