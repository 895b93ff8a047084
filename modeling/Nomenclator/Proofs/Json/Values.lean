import Nomenclator.Proofs.Json.Records

/-!
# Values are held as they are written

Where a reader asks for any value, it gets the value that was written, provided that there is room for
the arrays and objects in it (`NumberFree.accepts_value`). The value may hold no numbers: where a
number ends depends on what comes behind it, and the spelling of a decimal is not read back.

How much room a value takes is its height (`Json.height`).
-/

namespace Nomenclator.Json

variable {α : Type}

/-! ## Height -/

mutual

/-- How many arrays and objects of the value stand inside one another at most. -/
def height : Json → Nat
  | .array items => itemsHeight items + 1
  | .object members => membersHeight members + 1
  | _ => 0

/-- The height of the highest element. -/
def itemsHeight : List Json → Nat
  | [] => 0
  | v :: vs => max v.height (itemsHeight vs)

/-- The height of the highest member. -/
def membersHeight : List (Text × Json) → Nat
  | [] => 0
  | (_, v) :: members => max v.height (membersHeight members)

end

theorem height_le_itemsHeight {v : Json} {items : List Json} (h : v ∈ items) :
    v.height ≤ itemsHeight items := by
  induction items with
  | nil => cases h
  | cons u items ih =>
    rw [itemsHeight]
    rcases List.mem_cons.1 h with rfl | h
    · exact Nat.le_max_left _ _
    · exact Nat.le_trans (ih h) (Nat.le_max_right _ _)

theorem height_le_membersHeight {m : Text × Json} {members : List (Text × Json)}
    (h : m ∈ members) : m.2.height ≤ membersHeight members := by
  induction members with
  | nil => cases h
  | cons member members ih =>
    obtain ⟨name, v⟩ := member
    rw [membersHeight]
    rcases List.mem_cons.1 h with rfl | h
    · exact Nat.le_max_left _ _
    · exact Nat.le_trans (ih h) (Nat.le_max_right _ _)

/-! ## Values without numbers -/

/-- The value holds no numbers. -/
inductive NumberFree : Json → Prop
  | null : NumberFree .null
  | boolean (b : Bool) : NumberFree (.boolean b)
  | string (t : Text) : NumberFree (.string t)
  | array {items : List Json} (h : ∀ v ∈ items, NumberFree v) : NumberFree (.array items)
  | object {members : List (Text × Json)} (h : ∀ m ∈ members, NumberFree m.2) :
    NumberFree (.object members)

/-- The text of a value without numbers starts with a character that is no blank and closes no
array; only `null` starts with an `n`. -/
theorem NumberFree.exists_renderAt_eq {v : Json} (h : NumberFree v) (layout : Layout) (depth : Nat) :
    ∃ c t, renderAt layout depth v = c :: t ∧ Reader.isBlank c = false ∧ c ≠ ']' ∧
      (v ≠ .null → c ≠ 'n') := by
  cases h with
  | null => exact ⟨'n', "ull".toList, rfl, rfl, by decide, fun h => absurd rfl h⟩
  | boolean b =>
    cases b with
    | false => exact ⟨'f', "alse".toList, rfl, rfl, by decide, fun _ => by decide⟩
    | true => exact ⟨'t', "rue".toList, rfl, rfl, by decide, fun _ => by decide⟩
  | string t => exact ⟨'"', t.flatMap escapedChar ++ ['"'], rfl, rfl, by decide, fun _ => by decide⟩
  | @array items _ =>
    cases items with
    | nil => exact ⟨'[', [']'], rfl, rfl, by decide, fun _ => by decide⟩
    | cons item items => exact ⟨'[', _, rfl, rfl, by decide, fun _ => by decide⟩
  | @object members _ =>
    cases members with
    | nil => exact ⟨'{', ['}'], rfl, rfl, by decide, fun _ => by decide⟩
    | cons member members => exact ⟨'{', _, rfl, rfl, by decide, fun _ => by decide⟩

theorem NumberFree.opens {v : Json} (h : NumberFree v) : Opens v := by
  intro layout depth
  obtain ⟨c, t, htext, hblank, hclose, -⟩ := h.exists_renderAt_eq layout depth
  exact ⟨c, t, htext, hblank, hclose⟩

namespace Reader

/-! ## Words -/

/-- The induction is on the letters that are still due. -/
theorem reads_word {room : Nat} (w t : Text) : Reads (word w) room (w ++ t) () t := by
  induction w with
  | nil => exact reads_pure ()
  | cons c w ih =>
    have hpeek : Reads peek room (c :: (w ++ t)) (some c) (c :: (w ++ t)) :=
      fun position => ⟨position, rfl⟩
    refine hpeek.bind ?_
    show Reads (if c = c then _ else _) _ _ _ _
    rw [if_pos rfl]
    exact (reads_advance c _).bind ih

theorem reads_keyword {room : Nat} (c : Char) (w : Text) (a : α) (rest : Text) :
    Reads (do advance; word w; pure a) room (c :: (w ++ rest)) a rest :=
  (reads_advance c _).bind ((reads_word w rest).bind (reads_pure a))

theorem accepts_boolean (b : Bool) : Accepts boolean 0 (.boolean b) b := by
  intro layout depth room gap rest _ hgap
  cases b with
  | false =>
    refine Reads.located ((reads_expectToken hgap rfl).bind ?_)
    exact reads_keyword 'f' "alse".toList _ rest
  | true =>
    refine Reads.located ((reads_expectToken hgap rfl).bind ?_)
    exact reads_keyword 't' "rue".toList _ rest

/-! ## Values that may be null -/

theorem accepts_optional_null {r : Reader α} : Accepts (optional r) 0 .null none := by
  intro layout depth room gap rest _ hgap
  refine (reads_peekToken hgap rfl).bind ?_
  exact reads_keyword 'n' "ull".toList none rest

theorem Accepts.optional {r : Reader α} {height : Nat} {v : Json} {a : α} (h : Accepts r height v a)
    (hfree : NumberFree v) (hv : v ≠ .null) : Accepts (optional r) height v (some a) := by
  intro layout depth room gap rest hroom hgap
  obtain ⟨c, t, htext, hblank, -, hnull⟩ := hfree.exists_renderAt_eq layout depth
  have ha : Reads r room (renderAt layout depth v ++ rest) a rest :=
    h layout depth room [] rest hroom blank_nil
  rw [htext, List.cons_append] at ha ⊢
  refine (reads_peekToken hgap hblank).bind ?_
  show Reads (if some c = some 'n' then _ else _) _ _ _ _
  rw [if_neg fun hc => hnull hv (Option.some.inj hc)]
  exact ha.bind (reads_pure (some a))

/-! ## Members of any value -/

section Members

variable {layout : Layout} {depth height room : Nat} {r : Reader Json}

theorem reads_membersFrom_nil {isFirst : Bool} {n : Nat} {t rest : Text}
    (h : Reads (hasMember isFirst) room t false rest) :
    Reads (membersFrom r isFirst (n + 1)) room t [] rest :=
  h.bind (reads_pure [])

theorem reads_membersFrom_member (isFirst : Bool) {n : Nat} (hroom : height ≤ room)
    (name : Text) {v : Json} (hv : Accepts r height v v) {members : List (Text × Json)}
    {t rest : Text} (hmembers : Reads (membersFrom r false n) room t members rest) :
    Reads (membersFrom r isFirst (n + 1)) room
      (separator isFirst ++ (layout.gap depth ++ (renderString name ++ (layout.colon ++
        (renderAt layout depth v ++ t))))) ((name, v) :: members) rest := by
  obtain ⟨front, behindName, behindColon, hhas, hname, hcolon, hvalue⟩ :=
    exists_reads_member layout depth isFirst hroom name hv t
  exact hhas.bind (hname.bind (hcolon.bind (hvalue.bind (hmembers.bind (reads_pure _)))))

/-- The members behind the first one. The induction is on the members. -/
theorem reads_membersFrom_renderMembers (hroom : height ≤ room)
    {members : List (Text × Json)} (h : ∀ m ∈ members, Accepts r height m.2 m.2) {n : Nat}
    (hn : members.length < n) (rest : Text) :
    Reads (membersFrom r false n) room (renderMembers layout depth members ++ rest) members
      ('}' :: rest) := by
  induction members generalizing n with
  | nil =>
    obtain ⟨m, rfl⟩ : ∃ m, n = m + 1 := ⟨n - 1, by omega⟩
    simp only [renderMembers, List.append_assoc, List.singleton_append]
    exact reads_membersFrom_nil (reads_hasMember_end false (blank_gap layout depth))
  | cons member members ih =>
    obtain ⟨name, v⟩ := member
    obtain ⟨m, rfl⟩ : ∃ m, n = m + 1 := ⟨n - 1, by omega⟩
    obtain ⟨hv, hmembers⟩ := List.forall_mem_cons.1 h
    rw [List.length_cons] at hn
    simp only [renderMembers, List.cons_append, List.append_assoc]
    exact reads_membersFrom_member false hroom name hv (ih hmembers (by omega))

/-- Behind its opening bracket, an object is read up to the closing one. -/
theorem exists_reads_members (layout : Layout) (depth : Nat) (hroom : height ≤ room)
    {members : List (Text × Json)} (h : ∀ m ∈ members, Accepts r height m.2 m.2) (rest : Text) :
    ∃ t, renderAt layout depth (.object members) ++ rest = '{' :: t ∧
      Reads (Reader.members r true) room t members ('}' :: rest) := by
  cases members with
  | nil =>
    refine ⟨'}' :: rest, rfl, (reads_rounds _).bind (reads_membersFrom_nil ?_)⟩
    exact reads_hasMember_end true blank_nil
  | cons member members =>
    obtain ⟨name, v⟩ := member
    obtain ⟨hv, hmembers⟩ := List.forall_mem_cons.1 h
    have hlength := length_lt_renderMembers layout depth members
    simp only [renderAt, List.cons_append, List.append_assoc]
    refine ⟨_, rfl, (reads_rounds _).bind ?_⟩
    refine reads_membersFrom_member true hroom name hv ?_
    refine reads_membersFrom_renderMembers hroom hmembers ?_ rest
    simp only [List.length_append]
    omega

end Members

/-! ## Any value -/

section Scalars

variable {onArray onObject : Reader Json}

/-- The reader of values apart from arrays and objects. -/
def scalar (onArray onObject : Reader Json) : Reader Json := located do
  scalarOr onArray onObject (← expectToken .endBeforeValue)

theorem accepts_scalar_null : Accepts (scalar onArray onObject) 0 .null .null := by
  intro layout depth room gap rest _ hgap
  refine Reads.located ((reads_expectToken hgap rfl).bind ?_)
  exact reads_keyword 'n' "ull".toList _ rest

theorem accepts_scalar_boolean (b : Bool) :
    Accepts (scalar onArray onObject) 0 (.boolean b) (.boolean b) := by
  intro layout depth room gap rest _ hgap
  cases b with
  | false =>
    refine Reads.located ((reads_expectToken hgap rfl).bind ?_)
    exact reads_keyword 'f' "alse".toList _ rest
  | true =>
    refine Reads.located ((reads_expectToken hgap rfl).bind ?_)
    exact reads_keyword 't' "rue".toList _ rest

theorem accepts_scalar_string (s : Text) :
    Accepts (scalar onArray onObject) 0 (.string s) (.string s) := by
  intro layout depth room gap rest _ hgap
  rw [renderAt, renderString_append]
  refine Reads.located ((reads_expectToken hgap rfl).bind ?_)
  exact (reads_advance '"' _).bind ((reads_stringBody s rest).bind (reads_pure _))

end Scalars

end Reader

open Reader

/-- Any value without numbers is read by the reader of values that nest no deeper than a bound, if it
does not. The induction is on the value, for every bound. -/
theorem NumberFree.accepts_valueWithin {v : Json} (h : NumberFree v) {n : Nat} (hn : v.height ≤ n) :
    Accepts (valueWithin n) v.height v v := by
  induction h generalizing n with
  | null => cases n <;> exact accepts_scalar_null
  | boolean b => cases n <;> exact accepts_scalar_boolean b
  | string t => cases n <;> exact accepts_scalar_string t
  | @array items h ih =>
    obtain ⟨n, rfl⟩ : ∃ m, n = m + 1 := ⟨n - 1, by rw [height] at hn; omega⟩
    intro layout depth room gap rest hroom hgap
    obtain ⟨room, rfl⟩ : ∃ m, room = m + 1 := ⟨room - 1, by rw [height] at hroom; omega⟩
    have helement : ∀ v ∈ items, Accepts (valueWithin n) (itemsHeight items) (id v) v := by
      intro v hv
      have hle := height_le_itemsHeight hv
      exact (ih v hv (Nat.le_trans hle (Nat.le_of_succ_le_succ hn))).mono hle
    obtain ⟨t, htext, hreads⟩ := exists_reads_elements layout depth (Nat.le_of_succ_le_succ hroom)
      helement (fun v hv => (h v hv).opens) rest
    rw [List.map_id] at htext
    rw [htext]
    refine Reads.located ((reads_expectToken hgap rfl).bind ?_)
    exact Reads.inside (hreads.bind (reads_pure (Json.array items))) (reads_endArray rest)
  | @object members h ih =>
    obtain ⟨n, rfl⟩ : ∃ m, n = m + 1 := ⟨n - 1, by rw [height] at hn; omega⟩
    intro layout depth room gap rest hroom hgap
    obtain ⟨room, rfl⟩ : ∃ m, room = m + 1 := ⟨room - 1, by rw [height] at hroom; omega⟩
    have hmember : ∀ m ∈ members, Accepts (valueWithin n) (membersHeight members) m.2 m.2 := by
      intro m hm
      have hle := height_le_membersHeight hm
      exact (ih m hm (Nat.le_trans hle (Nat.le_of_succ_le_succ hn))).mono hle
    obtain ⟨t, htext, hreads⟩ := exists_reads_members layout depth (Nat.le_of_succ_le_succ hroom)
      hmember rest
    rw [htext]
    refine Reads.located ((reads_expectToken hgap rfl).bind ?_)
    exact Reads.inside (hreads.bind (reads_pure (Json.object members))) (reads_endObject rest)

theorem NumberFree.accepts_value {v : Json} (h : NumberFree v) : Accepts value v.height v v :=
  fun layout depth room gap rest hroom hgap =>
    h.accepts_valueWithin hroom layout depth room gap rest hroom hgap

end Nomenclator.Json
