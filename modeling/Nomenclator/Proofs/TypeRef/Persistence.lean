import Nomenclator.Proofs.Json.Values
import Nomenclator.TypeRef.Persistence

/-!
# Type references are read as they are written

A type reference is read in two phases. The first one goes through the text: it takes the form from
the tag and holds the other members as plain JSON (`TypeRef.accepts_partsReader`). The second one
takes the held members apart, and the type references in them as well (`TypeRef.ofParts_hold`). The
phases meet in the members behind the tag (`TypeRef.partsToJson`), none of which has the name of the
tag and none of which holds numbers.
-/

namespace Nomenclator

open Json Json.Reader

namespace TypeRef

/-! ## What is written -/

/-- The form of a type reference. -/
def form : TypeRef → Form
  | .predefined _ => .predefined
  | .named _ => .named
  | .array _ => .array
  | .nullable _ => .nullable
  | .alias _ _ => .alias
  | .typeParameter _ => .typeParameter
  | .void => .void
  | .error => .error

/-- The members that a type reference is written with behind its tag. -/
def partsToJson : TypeRef → List (Text × Json)
  | .predefined type => [("id".toList, Identified.toJson type)]
  | .named type => type.membersToJson
  | .array element => [("element".toList, element.toJson)]
  | .nullable inner => [("inner".toList, inner.toJson)]
  | .alias name target => [("name".toList, .string name), ("target".toList, target.toJson)]
  | .typeParameter name => [("name".toList, .string name)]
  | .void | .error => []

theorem toJson_eq_tagged (type : TypeRef) : type.toJson = tagged type.form type.partsToJson := by
  cases type <;> rw [toJson] <;> rfl

/-- The member can stand behind a tag: it is not taken for one, and it is held as it is. -/
def IsPart (m : Text × Json) : Prop := m.1 ≠ tag.toList ∧ NumberFree m.2

theorem isPart {name : String} {v : Json} (hname : name.toList ≠ tag.toList) (hv : NumberFree v) :
    IsPart (name.toList, v) := ⟨hname, hv⟩

theorem numberFree_tagged (form : Form) {members : List (Text × Json)}
    (h : ∀ m ∈ members, IsPart m) : NumberFree (tagged form members) := by
  refine .object (List.forall_mem_cons.2 ⟨.string _, ?_⟩)
  exact fun m hm => (h m hm).2

mutual

theorem isPart_of_mem_partsToJson : ∀ type : TypeRef, ∀ m ∈ type.partsToJson, IsPart m
  | .predefined _ => by
    simp only [partsToJson, List.forall_mem_singleton]
    exact isPart (by decide) (.string _)
  | .named type => isPart_of_mem_membersToJson type
  | .array element => by
    simp only [partsToJson, List.forall_mem_singleton]
    exact isPart (by decide) (numberFree_toJson element)
  | .nullable inner => by
    simp only [partsToJson, List.forall_mem_singleton]
    exact isPart (by decide) (numberFree_toJson inner)
  | .alias _ target => by
    simp only [partsToJson, List.forall_mem_cons]
    refine ⟨isPart (by decide) (.string _), isPart (by decide) (numberFree_toJson target), ?_⟩
    simp
  | .typeParameter _ => by
    simp only [partsToJson, List.forall_mem_singleton]
    exact isPart (by decide) (.string _)
  | .void => by simp [partsToJson]
  | .error => by simp [partsToJson]

theorem numberFree_toJson (type : TypeRef) : NumberFree type.toJson := by
  rw [toJson_eq_tagged]
  exact numberFree_tagged _ (isPart_of_mem_partsToJson type)

theorem isPart_of_mem_membersToJson : ∀ t : NamedType, ∀ m ∈ t.membersToJson, IsPart m
  | ⟨_, _, _, arguments, base, interfaces⟩ => by
    simp only [NamedType.membersToJson, List.forall_mem_cons]
    refine ⟨isPart (by decide) (.string _), ?_⟩
    refine ⟨isPart (by decide) (.string _), ?_⟩
    refine ⟨isPart (by decide) (.string _), ?_⟩
    refine ⟨isPart (by decide) (.array (numberFree_of_mem_listToJson arguments)), ?_⟩
    refine ⟨isPart (by decide) (numberFree_optionToJson base), ?_⟩
    refine ⟨isPart (by decide) (.array (numberFree_of_mem_listToJson interfaces)), ?_⟩
    simp

theorem numberFree_of_mem_listToJson : ∀ types : List TypeRef, ∀ v ∈ listToJson types, NumberFree v
  | [] => by simp [listToJson]
  | type :: types => by
    rw [listToJson, List.forall_mem_cons]
    exact ⟨numberFree_toJson type, numberFree_of_mem_listToJson types⟩

theorem numberFree_optionToJson : ∀ type : Option TypeRef, NumberFree (optionToJson type)
  | none => by
    rw [optionToJson]
    exact .null
  | some type => by
    rw [optionToJson]
    exact numberFree_toJson type

end

/-! ## Through the text -/

theorem accepts_formReader (form : Form) : Accepts Form.reader 0 (Identified.toJson form) form :=
  accepts_stringAs (Identified.resolve_identifier form)

/-- The members behind the tag. The induction is on the members. -/
theorem reads_taggedMembers_renderMembers {layout : Layout} {depth room n : Nat} {form : Form}
    {members : List (Text × Json)} (hroom : membersHeight members ≤ room)
    (h : ∀ m ∈ members, IsPart m) (hn : members.length < n) (rest : Text) :
    Reads (taggedMembers false (some form) n) room (renderMembers layout depth members ++ rest)
      (form, members) ('}' :: rest) := by
  induction members generalizing n with
  | nil =>
    obtain ⟨m, rfl⟩ : ∃ m, n = m + 1 := ⟨n - 1, by omega⟩
    simp only [renderMembers, List.append_assoc, List.singleton_append]
    exact (reads_hasMember_end false (blank_gap layout depth)).bind (reads_pure (form, []))
  | cons member members ih =>
    obtain ⟨name, v⟩ := member
    obtain ⟨m, rfl⟩ : ∃ m, n = m + 1 := ⟨n - 1, by omega⟩
    obtain ⟨⟨hne, hfree⟩, hmembers⟩ := List.forall_mem_cons.1 h
    rw [List.length_cons] at hn
    rw [membersHeight, Nat.max_le] at hroom
    simp only [renderMembers, List.cons_append, List.append_assoc]
    obtain ⟨front, behindName, behindColon, hhas, hname, hcolon, hvalue⟩ :=
      exists_reads_member layout (depth + 1) false hroom.1 name hfree.accepts_value
        (renderMembers layout depth members ++ rest)
    refine hhas.bind (hname.bind ?_)
    show Reads (if name = tag.toList then _ else _) _ _ _ _
    rw [if_neg hne]
    refine hcolon.bind (hvalue.bind ?_)
    exact (ih hroom.2 hmembers (by omega)).bind (reads_pure (form, (name, v) :: members))

/-- The first phase takes the form and holds the other members. -/
theorem accepts_partsReader (form : Form) {members : List (Text × Json)}
    (h : ∀ m ∈ members, IsPart m) :
    Accepts partsReader (membersHeight members + 1) (tagged form members)
      (form, .members (holdMembers members)) := by
  intro layout depth room gap rest hroom hgap
  obtain ⟨room, rfl⟩ : ∃ m, room = m + 1 := ⟨room - 1, by omega⟩
  have hinner : membersHeight members ≤ room := by omega
  have hlength := length_lt_renderMembers layout depth members
  obtain ⟨front, behindName, behindColon, hhas, hname, hcolon, hform⟩ :=
    exists_reads_member layout (depth + 1) true (Nat.zero_le room) tag.toList
      (accepts_formReader form) (renderMembers layout depth members ++ rest)
  simp only [tagged, renderAt, List.cons_append, List.append_assoc]
  refine Reads.located ((reads_expectToken hgap rfl).bind ?_)
  refine Reads.bind (a := (form, members)) (Reads.inside ?_ (reads_endObject rest)) (reads_pure _)
  refine (reads_rounds _).bind (hhas.bind (hname.bind ?_))
  refine hcolon.bind (hform.bind ?_)
  refine reads_taggedMembers_renderMembers hinner h ?_ rest
  simp only [List.length_append]
  omega

/-! ## Out of held values -/

section Held

variable {fields : List DraftField} {name : String} {part : Held} {parts : List (Text × Held)}
variable {draft filled : Draft}

theorem value_hold (v : Json) : (hold v).value = v := by
  cases v <;> simp [hold]

theorem fillByName_cons {β : Type} {isRequired : Bool} {get : Draft → Option β}
    {set : Draft → β → Draft} {take : Held → Except Mismatch β} {b : β}
    (hfind : fields.find? (fun field => field.name.toList == name.toList) =
      some (heldField name isRequired get set take))
    (hempty : (get draft).isSome = false) (htake : take part = .ok b)
    (hparts : fillByName fields parts (set draft b) = .ok filled) :
    fillByName fields ((name.toList, part) :: parts) draft = .ok filled := by
  have hfill : (heldField name isRequired get set take).fill part draft = .ok (set draft b) := by
    show (take part).map (set draft) = _
    rw [htake]
    rfl
  rw [fillByName, hfind]
  show (if (get draft).isSome = true then _ else _) = _
  rw [hempty, hfill]
  exact hparts

theorem ofParts_members {form : Form} {type : TypeRef}
    (h : fillByName form.fields parts {} = .ok filled) (hfinish : filled.finish form = .ok type) :
    ofParts form (.members parts) = .ok type := by
  show (fillByName form.fields parts {} >>= fun d => d.finish form) = _
  rw [h]
  exact hfinish

theorem asText_hold (t : Text) : (hold (.string t)).value.asText = .ok t := by
  rw [value_hold]
  rfl

theorem asMember_hold {α : Type} [Identified α] (a : α) :
    (hold (Identified.toJson a)).value.asMember = .ok a := by
  rw [value_hold]
  exact Identified.resolve_identifier a

/-- The members behind the tag are left when the form has been taken. -/
theorem takeForm_holdMembers {form : Form} {members : List (Text × Json)}
    (h : ∀ m ∈ members, IsPart m) :
    takeForm (some form) (holdMembers members) = .ok (form, holdMembers members) := by
  induction members with
  | nil => rfl
  | cons member members ih =>
    obtain ⟨name, v⟩ := member
    obtain ⟨⟨hne, -⟩, hmembers⟩ := List.forall_mem_cons.1 h
    rw [holdMembers, takeForm, if_neg hne, ih hmembers]
    rfl

theorem asType_hold_tagged (form : Form) {members : List (Text × Json)}
    (h : ∀ m ∈ members, IsPart m) :
    (hold (tagged form members)).asType = ofParts form (.members (holdMembers members)) := by
  have hform : Form.ofJson (hold (Identified.toJson form)).value = .ok form := by
    rw [value_hold]
    exact Identified.resolve_identifier form
  have htake : takeForm none ((tag.toList, hold (Identified.toJson form)) :: holdMembers members) =
      .ok (form, holdMembers members) := by
    rw [takeForm, if_pos rfl, hform]
    exact takeForm_holdMembers h
  rw [tagged, hold, holdMembers]
  show (takeForm none _ >>= fun p => ofParts p.1 (.members p.2)) = _
  rw [htake]
  rfl

end Held

mutual

/-- The second phase makes the type reference of what the first one held. -/
theorem ofParts_hold :
    ∀ type : TypeRef, ofParts type.form (.members (holdMembers type.partsToJson)) = .ok type
  | .predefined type => by
    have hid := asMember_hold type
    exact ofParts_members (fillByName_cons rfl rfl hid rfl) rfl
  | .named type => by
    refine ofParts_members (fillByName_membersToJson type) ?_
    cases type
    rfl
  | .array element => by
    have helement := asType_hold element
    exact ofParts_members (fillByName_cons rfl rfl helement rfl) rfl
  | .nullable inner => by
    have hinner := asType_hold inner
    exact ofParts_members (fillByName_cons rfl rfl hinner rfl) rfl
  | .alias name target => by
    have hname := asText_hold name
    have htarget := asType_hold target
    exact ofParts_members (fillByName_cons rfl rfl hname (fillByName_cons rfl rfl htarget rfl)) rfl
  | .typeParameter name => by
    have hname := asText_hold name
    exact ofParts_members (fillByName_cons rfl rfl hname rfl) rfl
  | .void => rfl
  | .error => rfl

theorem asType_hold (type : TypeRef) : (hold type.toJson).asType = .ok type := by
  rw [toJson_eq_tagged, asType_hold_tagged _ type.isPart_of_mem_partsToJson]
  exact ofParts_hold type

theorem fillByName_membersToJson :
    ∀ t : NamedType, fillByName namedFields (holdMembers t.membersToJson) {} =
      .ok
        { name := some t.name
          scope := some t.scope
          kind := some t.kind
          arguments := some t.arguments
          base := some t.base
          interfaces := some t.interfaces }
  | ⟨name, scope, kind, arguments, base, interfaces⟩ => by
    refine fillByName_cons rfl rfl (asText_hold name) ?_
    refine fillByName_cons rfl rfl (asText_hold scope) ?_
    refine fillByName_cons rfl rfl (asMember_hold kind) ?_
    refine fillByName_cons rfl rfl (asTypes_hold arguments) ?_
    refine fillByName_cons rfl rfl (asOptional_hold base) ?_
    exact fillByName_cons rfl rfl (asTypes_hold interfaces) rfl

theorem asTypes_hold (types : List TypeRef) :
    (hold (.array (listToJson types))).asTypes = .ok types := by
  rw [hold]
  exact mapM_asType_hold types

theorem mapM_asType_hold :
    ∀ types : List TypeRef, (holdItems (listToJson types)).mapM Held.asType = .ok types
  | [] => rfl
  | type :: types => by
    rw [listToJson, holdItems, List.mapM_cons, asType_hold type, mapM_asType_hold types]
    rfl

theorem asOptional_hold :
    ∀ type : Option TypeRef, (hold (optionToJson type)).asOptional = .ok type
  | none => rfl
  | some type => by
    have h := asType_hold type
    rw [optionToJson, Held.asOptional, h, value_hold, toJson_eq_tagged]
    rfl

end

/-! ## Both phases -/

theorem height_tagged (form : Form) (members : List (Text × Json)) :
    (tagged form members).height = membersHeight members + 1 := by
  rw [tagged, height, membersHeight]
  exact congrArg (· + 1) (Nat.zero_max _)

theorem accepts_toJson (type : TypeRef) : Accepts reader type.toJson.height type.toJson type := by
  rw [toJson_eq_tagged, height_tagged]
  intro layout depth room gap rest hroom hgap
  have hparts := accepts_partsReader type.form type.isPart_of_mem_partsToJson
  exact (hparts layout depth room gap rest hroom hgap).bind (reads_ofExcept type.ofParts_hold)

end TypeRef

end Nomenclator
