import Nomenclator.Json.Identified
import Nomenclator.Json.Record
import Nomenclator.Proofs.Json.Strings

/-!
# Arrays and records are read as they are written

A reader accepts a JSON value as something if it reads that from the text of the value, in either
layout, at any depth and behind any blanks, given room for the arrays and objects in it
(`Reader.Accepts`). Strings, identifiers of members, arrays of accepted elements and objects whose
members fill the fields of a record are accepted, the last two at the cost of one more bracket.

An array or an object is read in as many rounds as it has parts. The reader allows for one round for
each character, and every part has at least one (`length_lt_renderItems`, `length_lt_renderMembers`).
-/

namespace Nomenclator.Json

variable {α β σ : Type}

/-! ## Layout -/

theorem blank_gap (layout : Layout) (depth : Nat) : Reader.Blank (layout.gap depth) := by
  intro c hc
  cases layout with
  | compact => cases hc
  | indented =>
    rcases List.mem_cons.1 hc with rfl | hc
    · rfl
    · rw [List.eq_of_mem_replicate hc]
      rfl

theorem exists_colon_eq (layout : Layout) :
    ∃ gap, Reader.Blank gap ∧ layout.colon = ':' :: gap := by
  cases layout with
  | compact => exact ⟨[], Reader.blank_nil, rfl⟩
  | indented =>
    refine ⟨[' '], ?_, rfl⟩
    intro c hc
    rw [List.mem_singleton.1 hc]
    rfl

theorem length_lt_renderItems (layout : Layout) (depth : Nat) (items : List Json) :
    items.length < (renderItems layout depth items).length := by
  induction items with
  | nil => simp [renderItems]
  | cons item items ih =>
    simp only [renderItems, List.length_cons, List.length_append]
    omega

theorem length_lt_renderMembers (layout : Layout) (depth : Nat) (members : List (Text × Json)) :
    members.length < (renderMembers layout depth members).length := by
  induction members with
  | nil => simp [renderMembers]
  | cons member members ih =>
    obtain ⟨name, item⟩ := member
    simp only [renderMembers, List.length_cons, List.length_append]
    omega

/-- The text of the value starts with a character that is no blank and closes no array. -/
def Opens (v : Json) : Prop :=
  ∀ layout depth, ∃ c t, renderAt layout depth v = c :: t ∧ Reader.isBlank c = false ∧ c ≠ ']'

theorem opens_string (s : Text) : Opens (.string s) :=
  fun _ _ => ⟨'"', s.flatMap escapedChar ++ ['"'], rfl, rfl, by decide⟩

theorem opens_object (members : List (Text × Json)) : Opens (.object members) := by
  intro layout depth
  cases members with
  | nil => exact ⟨'{', ['}'], rfl, rfl, by decide⟩
  | cons member members => exact ⟨'{', _, rfl, rfl, by decide⟩

namespace Reader

/-- The reader reads the text of the value as this, where there is room for so many arrays and
objects inside one another. -/
def Accepts (r : Reader α) (height : Nat) (v : Json) (a : α) : Prop :=
  ∀ (layout : Layout) (depth room : Nat) (gap rest : Text), height ≤ room → Blank gap →
    Reads r room (gap ++ (renderAt layout depth v ++ rest)) a rest

theorem Accepts.mono {r : Reader α} {height height' : Nat} {v : Json} {a : α}
    (h : Accepts r height v a) (hle : height ≤ height') : Accepts r height' v a :=
  fun layout depth room gap rest hroom => h layout depth room gap rest (Nat.le_trans hle hroom)

/-- The text of an accepted value is read as a document. -/
theorem Accepts.document_render {r : Reader α} {height : Nat} {v : Json} {a : α}
    (h : Accepts r height v a) (hroom : height ≤ 127) (layout : Layout) :
    document r (v.render layout) = .ok a := by
  have hreads : Reads r 127 ([] ++ (renderAt layout 0 v ++ [])) a [] :=
    h layout 0 127 [] [] hroom blank_nil
  rw [List.nil_append, List.append_nil] at hreads
  exact document_eq_ok hreads

/-! ## Scalars -/

theorem accepts_stringAs {expected : String} {f : Text → Except Mismatch α} {s : Text} {a : α}
    (hf : f s = .ok a) : Accepts (stringAs expected f) 0 (.string s) a := by
  intro layout depth room gap rest _ hgap
  rw [renderAt, renderString_append]
  refine Reads.located ((reads_expectToken hgap rfl).bind ?_)
  refine (reads_advance '"' _).bind ((reads_stringBody s rest).bind ?_)
  exact reads_ofExcept hf

theorem accepts_string (t : Text) : Accepts string 0 (.string t) t := accepts_stringAs rfl

theorem accepts_variant {ofName : Text → Except Mismatch α} {s : Text} {a : α}
    (h : ofName s = .ok a) : Accepts (variant ofName) 0 (.string s) a := by
  intro layout depth room gap rest hroom hgap
  have hname : Reads (stringAs "variant identifier" ofName) room (renderString s ++ rest) a rest :=
    accepts_stringAs h layout depth room [] rest hroom blank_nil
  rw [renderString_append] at hname
  rw [renderAt, renderString_append]
  exact (reads_expectToken hgap rfl).bind hname

theorem accepts_member [Identified α] (a : α) : Accepts member 0 (Identified.toJson a) a :=
  accepts_variant (Identified.resolve_identifier a)

/-! ## Arrays -/

section Arrays

variable {layout : Layout} {depth height room : Nat}
variable {element : Reader α} {toJson : α → Json}

theorem reads_elementsFrom_item (isFirst : Bool) {n : Nat} (hroom : height ≤ room) {t rest : Text}
    {a : α} {as : List α} (helement : Accepts element height (toJson a) a)
    (hopens : Opens (toJson a)) (has : Reads (elementsFrom element false n) room t as rest) :
    Reads (elementsFrom element isFirst (n + 1)) room
      (separator isFirst ++ (layout.gap depth ++ (renderAt layout depth (toJson a) ++ t)))
      (a :: as) rest := by
  obtain ⟨c, front, hfront, hblank, hclose⟩ := hopens layout depth
  have ha : Reads element room (renderAt layout depth (toJson a) ++ t) a t :=
    helement layout depth room [] t hroom blank_nil
  rw [hfront, List.cons_append] at ha ⊢
  exact reads_elementsFrom_cons (reads_hasElement isFirst (blank_gap layout depth) hblank hclose)
    ha has

/-- The elements behind the first one. The induction is on the elements. -/
theorem reads_elementsFrom_renderItems (hroom : height ≤ room) {as : List α}
    (helement : ∀ a ∈ as, Accepts element height (toJson a) a) (hopens : ∀ a ∈ as, Opens (toJson a))
    {n : Nat} (hn : as.length < n) (rest : Text) :
    Reads (elementsFrom element false n) room
      (renderItems layout depth (as.map toJson) ++ rest) as (']' :: rest) := by
  induction as generalizing n with
  | nil =>
    obtain ⟨m, rfl⟩ : ∃ m, n = m + 1 := ⟨n - 1, by omega⟩
    simp only [List.map_nil, renderItems, List.append_assoc, List.singleton_append]
    exact reads_elementsFrom_nil (reads_hasElement_end false (blank_gap layout depth))
  | cons a as ih =>
    obtain ⟨m, rfl⟩ : ∃ m, n = m + 1 := ⟨n - 1, by omega⟩
    obtain ⟨ha, has⟩ := List.forall_mem_cons.1 helement
    obtain ⟨hopen, hopens⟩ := List.forall_mem_cons.1 hopens
    rw [List.length_cons] at hn
    simp only [List.map_cons, renderItems, List.cons_append, List.append_assoc]
    exact reads_elementsFrom_item false hroom ha hopen (ih has hopens (by omega))

/-- Behind its opening bracket, an array is read up to the closing one. -/
theorem exists_reads_elements (layout : Layout) (depth : Nat) (hroom : height ≤ room) {as : List α}
    (helement : ∀ a ∈ as, Accepts element height (toJson a) a) (hopens : ∀ a ∈ as, Opens (toJson a))
    (rest : Text) :
    ∃ t, renderAt layout depth (.array (as.map toJson)) ++ rest = '[' :: t ∧
      Reads (elements element true) room t as (']' :: rest) := by
  cases as with
  | nil =>
    refine ⟨']' :: rest, rfl, (reads_rounds _).bind (reads_elementsFrom_nil ?_)⟩
    exact reads_hasElement_end true blank_nil
  | cons a as =>
    obtain ⟨ha, has⟩ := List.forall_mem_cons.1 helement
    obtain ⟨hopen, hopens⟩ := List.forall_mem_cons.1 hopens
    have hlength : as.length < (renderItems layout depth (as.map toJson)).length := by
      simpa using length_lt_renderItems layout depth (as.map toJson)
    simp only [List.map_cons, renderAt, List.cons_append, List.append_assoc]
    refine ⟨_, rfl, (reads_rounds _).bind ?_⟩
    refine reads_elementsFrom_item true hroom ha hopen ?_
    refine reads_elementsFrom_renderItems hroom has hopens ?_ rest
    simp only [List.length_append]
    omega

theorem accepts_list (helement : ∀ a, Accepts element height (toJson a) a)
    (hopens : ∀ a, Opens (toJson a)) (as : List α) :
    Accepts (list element) (height + 1) (.array (as.map toJson)) as := by
  intro layout depth room gap rest hroom hgap
  obtain ⟨room, rfl⟩ : ∃ m, room = m + 1 := ⟨room - 1, by omega⟩
  obtain ⟨t, htext, hreads⟩ := exists_reads_elements layout depth (Nat.le_of_succ_le_succ hroom)
    (fun a _ => helement a) (fun a (_ : a ∈ as) => hopens a) rest
  rw [htext]
  exact Reads.located ((reads_expectToken hgap rfl).bind (hreads.inside (reads_endArray rest)))

theorem accepts_members [Identified α] (as : List α) :
    Accepts (list member) 1 (.array (as.map Identified.toJson)) as :=
  accepts_list accepts_member (fun a => opens_string (Identified.identifier a).toList) as

end Arrays

/-! ## Members -/

/-- A member is read in four steps: what sets it apart from the one before, its name, the colon, and
its value. -/
theorem exists_reads_member (layout : Layout) (depth : Nat) {height room : Nat} {r : Reader α}
    {v : Json} {a : α} (isFirst : Bool) (hroom : height ≤ room) (name : Text)
    (h : Accepts r height v a) (rest : Text) :
    ∃ front behindName behindColon,
      Reads (hasMember isFirst) room (separator isFirst ++ (layout.gap depth ++ (renderString name ++
        (layout.colon ++ (renderAt layout depth v ++ rest))))) true front ∧
      Reads memberName room front name behindName ∧ Reads colon room behindName () behindColon ∧
      Reads r room behindColon a rest := by
  obtain ⟨gap, hgap, hcolon⟩ := exists_colon_eq layout
  have hname : Reads memberName room (renderString name ++ (layout.colon ++
      (renderAt layout depth v ++ rest))) name (layout.colon ++ (renderAt layout depth v ++ rest)) :=
    reads_memberName name _
  rw [renderString_append] at hname ⊢
  refine ⟨_, _, gap ++ (renderAt layout depth v ++ rest),
    reads_hasMember isFirst (blank_gap layout depth), hname, ?_, h layout depth room gap rest hroom hgap⟩
  rw [hcolon]
  exact reads_colon _

/-! ## Records -/

/-- The members of an object fill fields of a draft one after the other, each of them a field of its
name that is still empty. -/
inductive Fills (fields : List (Field σ (σ → Reader σ))) (height : Nat) :
    List (Text × Json) → σ → σ → Prop
  | nil (draft : σ) : Fills fields height [] draft draft
  | cons {name : Text} {v : Json} {members : List (Text × Json)} {draft draft' filled : σ}
      {field : Field σ (σ → Reader σ)}
      (hfind : fields.find? (fun field => field.name.toList == name) = some field)
      (hempty : field.isFilled draft = false) (hfill : Accepts (field.fill draft) height v draft')
      (hmembers : Fills fields height members draft' filled) :
      Fills fields height ((name, v) :: members) draft filled

theorem Accepts.fieldOf {r : Reader β} {height : Nat} {v : Json} {b : β} (h : Accepts r height v b)
    {name : String} {isRequired : Bool} {get : σ → Option β} {set : σ → β → σ} {draft : σ} :
    Accepts ((fieldOf name isRequired get set r).fill draft) height v (set draft b) :=
  fun layout depth room gap rest hroom hgap =>
    (h layout depth room gap rest hroom hgap).bind (reads_pure (set draft b))

section Records

variable {layout : Layout} {depth height room : Nat}
variable {fields : List (Field σ (σ → Reader σ))} {draft draft' filled : σ}

theorem reads_fieldsByName_nil {isFirst : Bool} {n : Nat} {t rest : Text}
    (h : Reads (hasMember isFirst) room t false rest) :
    Reads (fieldsByName fields isFirst (n + 1) draft) room t draft rest :=
  h.bind (reads_pure draft)

theorem reads_fieldsByName_member (isFirst : Bool) {n : Nat} (hroom : height ≤ room)
    {name : Text} {v : Json} {field : Field σ (σ → Reader σ)}
    (hfind : fields.find? (fun field => field.name.toList == name) = some field)
    (hempty : field.isFilled draft = false) (hfill : Accepts (field.fill draft) height v draft')
    {t rest : Text} (hmembers : Reads (fieldsByName fields false n draft') room t filled rest) :
    Reads (fieldsByName fields isFirst (n + 1) draft) room
      (separator isFirst ++ (layout.gap depth ++ (renderString name ++ (layout.colon ++
        (renderAt layout depth v ++ t))))) filled rest := by
  obtain ⟨front, behindName, behindColon, hhas, hname, hcolon, hvalue⟩ :=
    exists_reads_member layout depth isFirst hroom name hfill t
  refine hhas.bind (hname.bind ?_)
  rw [hfind]
  show Reads (if field.isFilled draft = true then _ else _) _ _ _ _
  rw [hempty]
  exact hcolon.bind (hvalue.bind hmembers)

/-- The members behind the first one. The induction is on the members. -/
theorem reads_fieldsByName_renderMembers (hroom : height ≤ room) {members : List (Text × Json)}
    (h : Fills fields height members draft filled) {n : Nat} (hn : members.length < n)
    (rest : Text) :
    Reads (fieldsByName fields false n draft) room
      (renderMembers layout depth members ++ rest) filled ('}' :: rest) := by
  induction h generalizing n with
  | nil draft =>
    obtain ⟨m, rfl⟩ : ∃ m, n = m + 1 := ⟨n - 1, by omega⟩
    simp only [renderMembers, List.append_assoc, List.singleton_append]
    exact reads_fieldsByName_nil (reads_hasMember_end false (blank_gap layout depth))
  | cons hfind hempty hfill _ ih =>
    obtain ⟨m, rfl⟩ : ∃ m, n = m + 1 := ⟨n - 1, by omega⟩
    rw [List.length_cons] at hn
    simp only [renderMembers, List.cons_append, List.append_assoc]
    exact reads_fieldsByName_member false hroom hfind hempty hfill (ih (by omega))

/-- A record is read from an object whose members fill its fields. -/
theorem accepts_record {what : String} {start : σ} {finish : σ → Except Mismatch α}
    {members : List (Text × Json)} {a : α} (h : Fills fields height members start filled)
    (hfinish : finish filled = .ok a) :
    Accepts (record what fields start finish) (height + 1) (.object members) a := by
  intro layout depth room gap rest hroom hgap
  obtain ⟨room, rfl⟩ : ∃ m, room = m + 1 := ⟨room - 1, by omega⟩
  have hinner : height ≤ room := by omega
  have hread : ∀ {t : Text}, Reads (fieldsByName fields true (t.length + 1) start) room t filled
      ('}' :: rest) → Reads (record what fields start finish) (room + 1) (gap ++ '{' :: t) a rest := by
    intro t ht
    refine Reads.located ((reads_expectToken hgap rfl).bind (Reads.inside ?_ (reads_endObject rest)))
    exact (reads_rounds t).bind (ht.bind (reads_ofExcept hfinish))
  cases h with
  | nil => exact hread (reads_fieldsByName_nil (reads_hasMember_end true blank_nil))
  | cons hfind hempty hfill hmembers =>
    rename_i name v members draft' field
    have hlength := length_lt_renderMembers layout depth members
    simp only [renderAt, List.cons_append, List.append_assoc]
    refine hread ?_
    refine reads_fieldsByName_member true hinner hfind hempty hfill ?_
    refine reads_fieldsByName_renderMembers hinner hmembers ?_ rest
    simp only [List.length_append]
    omega

end Records

end Reader

end Nomenclator.Json
