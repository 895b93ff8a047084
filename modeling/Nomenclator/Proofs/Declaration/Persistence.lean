import Nomenclator.Declaration.Persistence
import Nomenclator.Proofs.TypeRef.Persistence

/-!
# Declaration sites are read as they are written

A declaration site writes all its fields, each under the name by which the reader finds it; what it
does not have, it writes as `null`. A set of modifiers is written as a list in the order of the
modifiers, and is the set of that list (`ModifierSet.ofList_toList`). The reader therefore accepts
what is written, given room for the arrays and objects in it (`DeclarationSite.accepts_toJson`). Only
the type of a site may need much room.

Main result: `parse_render_toJson` for declaration sites and for type references alone.
-/

namespace Nomenclator

open Json Json.Reader

/-! ## Parts of declaration sites -/

namespace ModifierSet

theorem accepts_toJson (s : ModifierSet) : Accepts reader 1 s.toJson s := by
  intro layout depth room gap rest hroom hgap
  have hmembers := accepts_members s.toList layout depth room gap rest hroom hgap
  have hset : Reads (pure (ofList s.toList)) room rest s rest := by
    rw [ofList_toList]
    exact reads_pure s
  exact hmembers.bind hset

end ModifierSet

theorem accepts_ofOption {α : Type} {r : Json.Reader α} {toJson : α → Json}
    (h : ∀ a, Accepts r (toJson a).height (toJson a) a) (hfree : ∀ a, NumberFree (toJson a))
    (hnull : ∀ a, toJson a ≠ .null) (a : Option α) :
    Accepts (optional r) (ofOption toJson a).height (ofOption toJson a) a := by
  cases a with
  | none => exact accepts_optional_null
  | some a => exact (h a).optional (hfree a) (hnull a)

theorem TypeRef.toJson_ne_null (type : TypeRef) : type.toJson ≠ .null := by
  rw [toJson_eq_tagged]
  exact Json.noConfusion

/-! ## Declaration sites -/

namespace DeclarationSite

/-- The members that a declaration site is written with. -/
def membersToJson (site : DeclarationSite) : List (Text × Json) :=
  [("possible_kinds".toList, .array (site.possibleKinds.map Identified.toJson)),
    ("modifiers".toList, site.modifiers.toJson),
    ("accessibility".toList, .ofOption Identified.toJson site.accessibility),
    ("type".toList, .ofOption TypeRef.toJson site.type),
    ("sibling_names".toList, .array (site.siblingNames.map .string)),
    ("has_name".toList, .boolean site.hasName)]

theorem accepts_toJson (site : DeclarationSite) :
    Accepts reader site.toJson.height site.toJson site := by
  have hheight : ∀ m ∈ site.membersToJson, m.2.height ≤ membersHeight site.membersToJson :=
    fun m hm => height_le_membersHeight hm
  simp only [membersToJson, List.forall_mem_cons] at hheight
  obtain ⟨hkinds, -, haccessibility, htype, -, -, -⟩ := hheight
  -- There is room for one array, because the kinds are written as one.
  have hone : 1 ≤ membersHeight site.membersToJson := by
    rw [height] at hkinds
    exact Nat.le_trans (Nat.le_add_left 1 _) hkinds
  have haccess : Accepts (optional member) _ (ofOption Identified.toJson site.accessibility)
      site.accessibility :=
    accepts_ofOption accepts_member (fun _ => .string _) (fun _ => Json.noConfusion) _
  have htyped : Accepts (optional TypeRef.reader) _ (ofOption TypeRef.toJson site.type) site.type :=
    accepts_ofOption TypeRef.accepts_toJson TypeRef.numberFree_toJson TypeRef.toJson_ne_null _
  have hnames : Accepts (list string) 1 (.array (site.siblingNames.map .string)) site.siblingNames :=
    accepts_list accepts_string opens_string _
  have hfills : Fills Draft.fields (membersHeight site.membersToJson) site.membersToJson {}
      { possibleKinds := some site.possibleKinds
        modifiers := some site.modifiers
        accessibility := some site.accessibility
        type := some site.type
        siblingNames := some site.siblingNames
        hasName := some site.hasName } := by
    refine .cons rfl rfl ((accepts_members site.possibleKinds).mono hone).fieldOf ?_
    refine .cons rfl rfl (site.modifiers.accepts_toJson.mono hone).fieldOf ?_
    refine .cons rfl rfl (haccess.mono haccessibility).fieldOf ?_
    refine .cons rfl rfl (htyped.mono htype).fieldOf ?_
    refine .cons rfl rfl (hnames.mono hone).fieldOf ?_
    refine .cons rfl rfl ((accepts_boolean site.hasName).mono (Nat.zero_le _)).fieldOf ?_
    exact .nil _
  exact accepts_record hfills rfl

end DeclarationSite

/-- The text of a declaration site is read as the declaration site, and the text of a type reference
as the type reference, in either layout and with whatever characters in their names, as long as no
more than 127 arrays and objects stand inside one another. -/
theorem parse_render_toJson (layout : Layout) :
    (∀ site : DeclarationSite, site.toJson.height ≤ 127 →
      DeclarationSite.parse (site.toJson.render layout) = .ok site) ∧
    ∀ type : TypeRef, type.toJson.height ≤ 127 →
      TypeRef.parse (type.toJson.render layout) = .ok type :=
  ⟨fun site hsite => site.accepts_toJson.document_render hsite layout,
    fun type htype => type.accepts_toJson.document_render htype layout⟩

/-- A generic type with an alias that has a quote in its name, a base type and interfaces. -/
def nestedType : TypeRef :=
  .named
    { name := "Task".toList
      scope := "System.Threading.Tasks".toList
      arguments := [.nullable (.array (.alias "\"Names\"".toList (.predefined .string)))]
      base := some (.named { name := "Object".toList, scope := "System".toList })
      interfaces := [.typeParameter "T".toList, .error] }

/-- A static and asynchronous declaration of that type, next to a name with a tabulator. -/
def nestedSite : DeclarationSite where
  possibleKinds := [.property, .method]
  modifiers := .ofList [.async, .static]
  accessibility := some .internalLevel
  type := some nestedType
  siblingNames := ["kind".toList, "with\ttab".toList]

theorem parse_render_toJson_nested :
    (nestedSite.toJson.height ≤ 127 ∧
      DeclarationSite.parse (nestedSite.toJson.render .indented) = .ok nestedSite) ∧
      nestedType.toJson.height ≤ 127 ∧
      TypeRef.parse (nestedType.toJson.render .indented) = .ok nestedType := by
  have hsite : nestedSite.toJson.height ≤ 127 := by decide
  have htype : nestedType.toJson.height ≤ 127 := by decide
  have hparse := parse_render_toJson .indented
  exact ⟨⟨hsite, hparse.1 nestedSite hsite⟩, htype, hparse.2 nestedType htype⟩

end Nomenclator
