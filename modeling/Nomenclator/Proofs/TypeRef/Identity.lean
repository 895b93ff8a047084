import Nomenclator.Proofs.Text.Splitting
import Nomenclator.Suggestion.Decomposition

/-!
# Types of one spelling

A type is spelled from the left: its opening, which is a keyword or a name, then its type arguments, then
the marks of the arrays and nullables around it. No character of an opening, but the first, can start
arguments or marks, and none of these can start what may stand behind a type argument. So a spelling can
be read in one way only, at any depth (`TypeRef.outline_eq_of_append`), if no alias is in it and its names
are no keywords.

What is read is the outline of the type: the type without the kinds, base types and interfaces of the
types in it, which are not spelled. Types of one spelling are types of one outline, and the decomposition,
which tells a type by its spelling, never takes a type for another one that it stands in
(`TypeRef.identity_tells_outline`).
-/

namespace Nomenclator

/-! ## Names -/

/-- The character may stand in the name of a type. -/
def isNameChar (c : Char) : Bool := Unicode.isAlphabetic c || Unicode.isNumeric c || c == '_'

/-- The text is a name for types and type parameters: letters, numerals and underscores, and no keyword of
a type. -/
structure IsTypeName (name : Text) : Prop where
  ne_nil : name ≠ []
  isNameChar : ∀ c ∈ name, isNameChar c = true
  ne_keyword : ∀ type : PredefinedType, name ≠ type.keyword.toList
  ne_void : name ≠ "void".toList

instance (name : Text) : Decidable (IsTypeName name) :=
  decidable_of_iff
    (name ≠ [] ∧ name.all isNameChar = true ∧
      (∀ type ∈ PredefinedType.all, name ≠ type.keyword.toList) ∧ name ≠ "void".toList)
    ⟨fun ⟨hne, hchars, hkeyword, hvoid⟩ =>
        ⟨hne, List.all_eq_true.1 hchars, fun type => hkeyword type type.mem_all, hvoid⟩,
      fun h =>
        ⟨h.ne_nil, List.all_eq_true.2 h.isNameChar, fun type _ => h.ne_keyword type, h.ne_void⟩⟩

theorem IsTypeName.not_mem {name : Text} (h : IsTypeName name) {c : Char}
    (hc : Nomenclator.isNameChar c = false) : c ∉ name := by
  intro hmem
  rw [h.isNameChar c hmem] at hc
  cases hc

mutual

/-- The type is spelled without aliases and with names for types. -/
def TypeRef.WellNamed : TypeRef → Prop
  | .predefined _ => True
  | .named type => type.WellNamed
  | .array element => element.WellNamed
  | .nullable inner => inner.WellNamed
  | .alias _ _ => False
  | .typeParameter name => IsTypeName name
  | .void => True
  | .error => True

/-- The declared type is spelled without aliases and with names for types, between the dots of its
namespace too. -/
def NamedType.WellNamed : NamedType → Prop
  | ⟨name, scope, _, arguments, _, _⟩ =>
    IsTypeName name ∧ (scope = [] ∨ ∀ part ∈ Text.splitOn '.' scope, IsTypeName part) ∧
      TypeRef.AllWellNamed arguments

/-- The types of the list are spelled without aliases and with names for types. -/
def TypeRef.AllWellNamed : List TypeRef → Prop
  | [] => True
  | type :: types => type.WellNamed ∧ TypeRef.AllWellNamed types

end

/-! ## Outlines -/

mutual

/-- The type without the kinds, base types and interfaces of the declared types in it. -/
def TypeRef.outline : TypeRef → TypeRef
  | .predefined type => .predefined type
  | .named type => .named type.outline
  | .array element => .array element.outline
  | .nullable inner => .nullable inner.outline
  | .alias name target => .alias name target.outline
  | .typeParameter name => .typeParameter name
  | .void => .void
  | .error => .error

/-- The declared type without kind, base type and interfaces, and so are its type arguments. -/
def NamedType.outline : NamedType → NamedType
  | ⟨name, scope, _, arguments, _, _⟩ => { name, scope, arguments := TypeRef.outlines arguments }

/-- The outlines of several types. -/
def TypeRef.outlines : List TypeRef → List TypeRef
  | [] => []
  | type :: types => type.outline :: TypeRef.outlines types

end

mutual

/-- The outline of a type is spelled as the type is. -/
theorem TypeRef.identity_outline : ∀ type : TypeRef, type.outline.identity = type.identity
  | .predefined _ => rfl
  | .named type => type.identity_outline
  | .array element => by
    rw [TypeRef.outline, TypeRef.identity, TypeRef.identity, element.identity_outline]
  | .nullable inner => by
    rw [TypeRef.outline, TypeRef.identity, TypeRef.identity, inner.identity_outline]
  | .alias _ target => by
    rw [TypeRef.outline, TypeRef.identity, TypeRef.identity, target.identity_outline]
  | .typeParameter _ => rfl
  | .void => rfl
  | .error => rfl

theorem NamedType.identity_outline : ∀ type : NamedType, type.outline.identity = type.identity
  | ⟨_, _, _, arguments, _, _⟩ => by
    rw [NamedType.outline, NamedType.identity, NamedType.identity,
      TypeRef.identities_outlines arguments]

theorem TypeRef.identities_outlines :
    ∀ types : List TypeRef, TypeRef.identities (TypeRef.outlines types) = TypeRef.identities types
  | [] => rfl
  | type :: types => by
    rw [TypeRef.outlines, TypeRef.identities, TypeRef.identities, type.identity_outline,
      TypeRef.identities_outlines types]

end

/-! ## The parts of a spelling -/

/-- What is put around a type behind its spelling. -/
inductive Mark
  | array
  | nullable

namespace Mark

/-- The type with the mark behind it. -/
def apply : Mark → TypeRef → TypeRef
  | .array => .array
  | .nullable => .nullable

def spelling : Mark → Text
  | .array => "[]".toList
  | .nullable => ['?']

end Mark

namespace TypeRef

/-- The spelling of a type up to its type arguments and marks. -/
def opening : TypeRef → Text
  | .predefined type => type.keyword.toList
  | .named type => type.qualifiedName
  | .array element => element.opening
  | .nullable inner => inner.opening
  | .alias name _ => name
  | .typeParameter name => '!' :: name
  | .void => "void".toList
  | .error => "?error".toList

/-- The type arguments behind the opening. -/
def openedArguments : TypeRef → List TypeRef
  | .named type => type.arguments
  | .array element => element.openedArguments
  | .nullable inner => inner.openedArguments
  | _ => []

/-- The marks behind the opening and the type arguments, from the left. -/
def marks : TypeRef → List Mark
  | .array element => element.marks ++ [.array]
  | .nullable inner => inner.marks ++ [.nullable]
  | _ => []

/-- The type with this opening and these type arguments. -/
def ofOpening (opening : Text) (arguments : List TypeRef) : TypeRef :=
  if opening.head? = some '?' then .error
  else if opening.head? = some '!' then .typeParameter opening.tail
  else if opening = "void".toList then .void
  else
    match PredefinedType.all.find? fun type => type.keyword.toList == opening with
    | some type => .predefined type
    | none => .named { NamedType.ofQualifiedName opening with arguments }

end TypeRef

/-- The character may stand in an opening behind its first character. -/
def isOpeningChar (c : Char) : Bool := isNameChar c || c == '.'

namespace NamedType

variable {t : NamedType}

theorem wellNamed_iff : t.WellNamed ↔
    IsTypeName t.name ∧ (t.scope = [] ∨ ∀ part ∈ Text.splitOn '.' t.scope, IsTypeName part) ∧
      TypeRef.AllWellNamed t.arguments := by
  obtain ⟨name, scope, kind, arguments, base, interfaces⟩ := t
  rfl

theorem identity_eq (t : NamedType) :
    t.identity = t.qualifiedName ++ angled (TypeRef.identities t.arguments) := by
  obtain ⟨name, scope, kind, arguments, base, interfaces⟩ := t
  rfl

theorem outline_eq (t : NamedType) : t.outline =
    { name := t.name, scope := t.scope, arguments := TypeRef.outlines t.arguments } := by
  obtain ⟨name, scope, kind, arguments, base, interfaces⟩ := t
  rfl

/-- A full name has something in it, and no characters but those of names and dots. -/
theorem qualifiedName_spec (ht : t.WellNamed) :
    t.qualifiedName ≠ [] ∧ ∀ c ∈ t.qualifiedName, isOpeningChar c = true := by
  obtain ⟨hname, hscope, -⟩ := wellNamed_iff.1 ht
  have hnameChar : ∀ {part : Text}, IsTypeName part → ∀ c ∈ part, isOpeningChar c = true := by
    intro part hpart c hc
    rw [isOpeningChar, hpart.isNameChar c hc, Bool.true_or]
  unfold qualifiedName
  split
  · exact ⟨hname.ne_nil, hnameChar hname⟩
  · rename_i hne
    refine ⟨by simp, fun c hc => ?_⟩
    rcases List.mem_append.1 hc with hc | hc
    · have hparts := hscope.resolve_left hne
      rw [← Text.joinWith_splitOn '.' t.scope] at hc
      rcases Text.mem_of_mem_joinWith hc with hdot | ⟨part, hpart, hc⟩
      · rw [List.mem_singleton.1 hdot]
        decide
      · exact hnameChar (hparts part hpart) c hc
    · rcases List.mem_cons.1 hc with rfl | hc
      · decide
      · exact hnameChar hname c hc

/-- The namespace of a full name ends at its last dot. -/
theorem ofQualifiedName_qualifiedName (hname : '.' ∉ t.name) :
    ofQualifiedName t.qualifiedName = { name := t.name, scope := t.scope } := by
  unfold qualifiedName
  split
  · rename_i hscope
    rw [ofQualifiedName, Text.splitLast?_of_not_mem hname, hscope]
  · rw [ofQualifiedName, Text.splitLast?_append_cons t.scope hname]

/-- A full name with a namespace has a dot, so it is no keyword if the simple name is none. -/
theorem qualifiedName_ne {keyword : Text} (hdot : '.' ∉ keyword) (hname : t.name ≠ keyword) :
    t.qualifiedName ≠ keyword := by
  unfold qualifiedName
  split
  · exact hname
  · rintro rfl
    simp at hdot

end NamedType

namespace TypeRef

theorem allWellNamed_iff {types : List TypeRef} :
    AllWellNamed types ↔ ∀ type ∈ types, type.WellNamed := by
  induction types with
  | nil => simp [AllWellNamed]
  | cons type types ih => rw [AllWellNamed, ih, List.forall_mem_cons]

theorem wellNamed_of_mem_openedArguments :
    ∀ type : TypeRef, type.WellNamed → ∀ a ∈ type.openedArguments, a.WellNamed
  | .named _, h => allWellNamed_iff.1 (NamedType.wellNamed_iff.1 h).2.2
  | .array element, h => wellNamed_of_mem_openedArguments element h
  | .nullable inner, h => wellNamed_of_mem_openedArguments inner h
  | .predefined _, _ | .alias _ _, _ | .typeParameter _, _ | .void, _ | .error, _ => by
    simp [openedArguments]

/-- A type is spelled by its opening, its type arguments and its marks. -/
theorem identity_eq : ∀ type : TypeRef, type.WellNamed → type.identity =
    type.opening ++ (angled (identities type.openedArguments) ++ type.marks.flatMap Mark.spelling)
  | .named type, _ => by
    rw [identity, type.identity_eq]
    simp [opening, openedArguments, marks]
  | .array element, h => by
    rw [identity, identity_eq element h]
    simp [opening, openedArguments, marks, Mark.spelling]
  | .nullable inner, h => by
    rw [identity, identity_eq inner h]
    simp [opening, openedArguments, marks, Mark.spelling]
  | .predefined _, _ | .typeParameter _, _ | .void, _ | .error, _ => by
    simp [identity, opening, openedArguments, marks, identities, angled]

/-- An opening has a first character, and behind it only characters of names and dots. -/
theorem opening_spec : ∀ type : TypeRef, type.WellNamed →
    ∃ c rest, type.opening = c :: rest ∧ ∀ d ∈ rest, isOpeningChar d = true
  | .predefined type, _ => by
    cases type <;> exact ⟨_, _, rfl, List.all_eq_true.1 (by decide)⟩
  | .named type, h => by
    obtain ⟨hne, hall⟩ := NamedType.qualifiedName_spec (t := type) h
    obtain ⟨c, rest, heq⟩ := List.exists_cons_of_ne_nil hne
    exact ⟨c, rest, heq, fun d hd => hall d (heq ▸ List.mem_cons_of_mem c hd)⟩
  | .array element, h => opening_spec element h
  | .nullable inner, h => opening_spec inner h
  | .typeParameter name, h => by
    refine ⟨'!', name, rfl, fun d hd => ?_⟩
    rw [isOpeningChar, IsTypeName.isNameChar h d hd, Bool.true_or]
  | .void, _ => ⟨_, _, rfl, List.all_eq_true.1 (by decide)⟩
  | .error, _ => ⟨_, _, rfl, List.all_eq_true.1 (by decide)⟩

/-- A full name with type arguments opens a declared type. -/
theorem ofOpening_qualifiedName {t : NamedType} (ht : t.WellNamed) (arguments : List TypeRef) :
    ofOpening t.qualifiedName arguments =
      .named { name := t.name, scope := t.scope, arguments := arguments } := by
  obtain ⟨hname, -, -⟩ := NamedType.wellNamed_iff.1 ht
  obtain ⟨-, hchars⟩ := NamedType.qualifiedName_spec ht
  have hhead : ∀ {c : Char}, isOpeningChar c = false → t.qualifiedName.head? ≠ some c := by
    intro c hc hfirst
    rw [hchars c (List.mem_of_head? hfirst)] at hc
    cases hc
  have hvoid : t.qualifiedName ≠ "void".toList := NamedType.qualifiedName_ne (by decide) hname.ne_void
  have hkeyword : (PredefinedType.all.find? fun type => type.keyword.toList == t.qualifiedName) =
      none := by
    rw [List.find?_eq_none]
    intro type _ heq
    have hdot : '.' ∉ type.keyword.toList := by cases type <;> decide
    exact NamedType.qualifiedName_ne hdot (hname.ne_keyword type) (beq_iff_eq.1 heq).symm
  have hdot : '.' ∉ t.name := hname.not_mem (by decide)
  rw [ofOpening, if_neg (hhead (by decide)), if_neg (hhead (by decide)), if_neg hvoid, hkeyword,
    NamedType.ofQualifiedName_qualifiedName hdot]

/-- The parts of a spelling tell the outline of the type. -/
theorem outline_eq : ∀ type : TypeRef, type.WellNamed → type.outline =
    type.marks.foldl (fun inner mark => mark.apply inner)
      (ofOpening type.opening (outlines type.openedArguments))
  | .named type, h => by
    rw [outline, type.outline_eq, ← ofOpening_qualifiedName h]
    rfl
  | .array element, h => by
    rw [outline, outline_eq element h, marks, List.foldl_append]
    rfl
  | .nullable inner, h => by
    rw [outline, outline_eq inner h, marks, List.foldl_append]
    rfl
  | .predefined type, _ => by cases type <;> rfl
  | .typeParameter _, _ => rfl
  | .void, _ => rfl
  | .error, _ => rfl

/-! ## Reading a spelling from the left -/

/-- A type may end in front of the text: nothing is left, or what comes behind a type argument. -/
def EndsType (x : Text) : Prop := ∀ c ∈ x.head?, c = ',' ∨ c = '>'

variable {s t : TypeRef} {as bs : List TypeRef} {ms ns : List Mark} {x y : Text}

/-- Characters of an opening end in front of one that is none. -/
theorem takeWhile_isOpeningChar (hx : ∀ c ∈ x, isOpeningChar c = true)
    (hy : ∀ c ∈ y.head?, isOpeningChar c = false) : (x ++ y).takeWhile isOpeningChar = x := by
  rw [List.takeWhile_append_of_pos hx]
  cases y with
  | nil => simp
  | cons c y => simp [hy c rfl]

/-- Openings can be told from what comes behind them. -/
theorem opening_eq_of_append (hs : s.WellNamed) (ht : t.WellNamed)
    (hx : ∀ c ∈ x.head?, isOpeningChar c = false) (hy : ∀ c ∈ y.head?, isOpeningChar c = false)
    (h : s.opening ++ x = t.opening ++ y) : s.opening = t.opening ∧ x = y := by
  obtain ⟨c, front, hc, hfront⟩ := opening_spec s hs
  obtain ⟨d, back, hd, hback⟩ := opening_spec t ht
  rw [hc, hd, List.cons_append, List.cons_append] at h
  obtain ⟨hfirst, hrest⟩ := List.cons_eq_cons.1 h
  have hsame : front = back := by
    rw [← takeWhile_isOpeningChar hfront hx, hrest, takeWhile_isOpeningChar hback hy]
  subst hsame
  exact ⟨by rw [hc, hd, hfirst], List.append_cancel_left hrest⟩

/-- Marks can be told from what comes behind a type. -/
theorem marks_eq_of_append (hx : EndsType x) (hy : EndsType y)
    (h : ms.flatMap Mark.spelling ++ x = ns.flatMap Mark.spelling ++ y) : ms = ns ∧ x = y := by
  have hmark : ∀ {m : Mark} {r z : Text}, EndsType z → z ≠ m.spelling ++ r := by
    rintro m r z hz rfl
    cases m with
    | array => simp [EndsType, Mark.spelling] at hz
    | nullable => simp [EndsType, Mark.spelling] at hz
  induction ms generalizing ns with
  | nil =>
    cases ns with
    | nil => exact ⟨rfl, h⟩
    | cons n ns =>
      rw [List.flatMap_cons, List.append_assoc] at h
      exact absurd h (hmark hx)
  | cons m ms ih =>
    cases ns with
    | nil =>
      rw [List.flatMap_cons, List.append_assoc] at h
      exact absurd h.symm (hmark hy)
    | cons n ns =>
      rw [List.flatMap_cons, List.flatMap_cons, List.append_assoc, List.append_assoc] at h
      obtain rfl : m = n := by
        cases m <;> cases n <;> simp [Mark.spelling] at h ⊢
      obtain ⟨rfl, hxy⟩ := ih (List.append_cancel_left h)
      exact ⟨rfl, hxy⟩

/-- The spelling of the type can be told from what comes behind it, and tells the outline of the type. -/
def IsTold (s : TypeRef) : Prop :=
  ∀ (t : TypeRef) (x y : Text), t.WellNamed → EndsType x → EndsType y →
    s.identity ++ x = t.identity ++ y → s.outline = t.outline ∧ x = y

/-- Type arguments can be told from what comes behind the bracket, if each of them can. The induction is on
the arguments: behind each of them comes a comma or the bracket. -/
theorem arguments_eq_of_append (has : ∀ a ∈ as, a.IsTold) (hbs : ∀ b ∈ bs, b.WellNamed)
    (hne : as ≠ []) (hne' : bs ≠ [])
    (h : Text.joinWith ", ".toList (identities as) ++ '>' :: x =
      Text.joinWith ", ".toList (identities bs) ++ '>' :: y) :
    outlines as = outlines bs ∧ x = y := by
  have hcomma : ∀ z : Text, EndsType (", ".toList ++ z) := fun z => by simp [EndsType]
  have hbracket : ∀ z : Text, EndsType ('>' :: z) := fun z => by simp [EndsType]
  induction as generalizing bs with
  | nil => exact absurd rfl hne
  | cons a as ih =>
    cases bs with
    | nil => exact absurd rfl hne'
    | cons b bs =>
      have ha := has a List.mem_cons_self b
      have hb := hbs b List.mem_cons_self
      cases as with
      | nil =>
        cases bs with
        | nil =>
          obtain ⟨hab, hrest⟩ := ha _ _ hb (hbracket x) (hbracket y) h
          refine ⟨?_, (List.cons_eq_cons.1 hrest).2⟩
          show [a.outline] = [b.outline]
          rw [hab]
        | cons b' bs =>
          simp only [identities, Text.joinWith, List.append_assoc] at h
          obtain ⟨-, hrest⟩ := ha _ _ hb (hbracket x) (hcomma _) h
          simp at hrest
      | cons a' as =>
        cases bs with
        | nil =>
          simp only [identities, Text.joinWith, List.append_assoc] at h
          obtain ⟨-, hrest⟩ := ha _ _ hb (hcomma _) (hbracket y) h
          simp at hrest
        | cons b' bs =>
          simp only [identities, Text.joinWith, List.append_assoc] at h
          obtain ⟨hab, hrest⟩ := ha _ _ hb (hcomma _) (hcomma _) h
          obtain ⟨htail, hxy⟩ := ih (fun c hc => has c (List.mem_cons_of_mem a hc))
            (fun c hc => hbs c (List.mem_cons_of_mem b hc)) (by simp) (by simp)
            (List.append_cancel_left hrest)
          refine ⟨?_, hxy⟩
          show a.outline :: outlines (a' :: as) = b.outline :: outlines (b' :: bs)
          rw [hab, htail]

/-- Type arguments, or none, can be told from marks and from what comes behind a type. -/
theorem angled_eq_of_append (has : ∀ a ∈ as, a.IsTold) (hbs : ∀ b ∈ bs, b.WellNamed)
    (hx : x.head? ≠ some '<') (hy : y.head? ≠ some '<')
    (h : angled (identities as) ++ x = angled (identities bs) ++ y) :
    outlines as = outlines bs ∧ x = y := by
  cases as with
  | nil =>
    cases bs with
    | nil => exact ⟨rfl, h⟩
    | cons b bs =>
      rw [show x = angled (identities (b :: bs)) ++ y from h] at hx
      exact absurd rfl hx
  | cons a as =>
    cases bs with
    | nil =>
      rw [show y = angled (identities (a :: as)) ++ x from h.symm] at hy
      exact absurd rfl hy
    | cons b bs =>
      apply arguments_eq_of_append has hbs (List.cons_ne_nil a as) (List.cons_ne_nil b bs)
      simpa [identities, angled] using h

/-- What stands behind the opening of a type cannot be taken for a part of the opening. -/
theorem head?_behind_opening (hx : EndsType x) :
    ∀ c ∈ (angled (identities as) ++ (ms.flatMap Mark.spelling ++ x)).head?,
      isOpeningChar c = false := by
  intro c hc
  cases as with
  | cons a as =>
    obtain rfl : '<' = c := Option.some.inj hc
    decide
  | nil =>
    cases ms with
    | cons m ms =>
      cases m with
      | array =>
        obtain rfl : '[' = c := Option.some.inj hc
        decide
      | nullable =>
        obtain rfl : '?' = c := Option.some.inj hc
        decide
    | nil =>
      rcases hx c hc with rfl | rfl
      · decide
      · decide

/-- Nor can what stands behind the type arguments be taken for others. -/
theorem head?_behind_arguments (hx : EndsType x) : (ms.flatMap Mark.spelling ++ x).head? ≠ some '<' := by
  intro hc
  cases ms with
  | cons m ms => cases m <;> exact absurd (Option.some.inj hc) (by decide)
  | nil => rcases hx '<' hc with h | h <;> exact absurd h (by decide)

theorem identity_mem_identities {types : List TypeRef} (ht : t ∈ types) :
    t.identity ∈ identities types := by
  induction types with
  | nil => cases ht
  | cons type types ih =>
    rcases List.mem_cons.1 ht with rfl | ht
    · exact List.mem_cons_self
    · exact List.mem_cons_of_mem _ (ih ht)

/-- Spellings are shorter than all of them in angle brackets. -/
theorem length_lt_length_angled {spellings : List Text} (hx : x ∈ spellings) :
    x.length < (angled spellings).length := by
  have hle : x.length ≤ (Text.joinWith ", ".toList spellings).length :=
    (Text.infix_joinWith hx).length_le
  cases spellings with
  | nil => cases hx
  | cons spelling spellings =>
    simp only [angled, List.length_cons, List.length_append]
    omega

/-- A type argument is spelled in fewer characters than the type. -/
theorem length_identity_lt_of_mem_openedArguments (hs : s.WellNamed) (ht : t ∈ s.openedArguments) :
    t.identity.length < s.identity.length := by
  have hlt := length_lt_length_angled (identity_mem_identities ht)
  rw [identity_eq s hs, List.length_append, List.length_append]
  omega

/-- A type without aliases and with names for types is told by its spelling. The induction is on the length
of the spelling: type arguments have shorter ones. -/
theorem isTold_of_wellNamed (hs : s.WellNamed) : s.IsTold := by
  induction hn : s.identity.length using Nat.strongRecOn generalizing s with
  | ind n ih =>
    subst hn
    intro t x y ht hx hy h
    rw [identity_eq s hs, identity_eq t ht, List.append_assoc, List.append_assoc, List.append_assoc,
      List.append_assoc] at h
    obtain ⟨hopening, hrest⟩ := opening_eq_of_append hs ht (head?_behind_opening hx)
      (head?_behind_opening hy) h
    have hargs : ∀ a ∈ s.openedArguments, a.IsTold := by
      intro a ha
      have hlt := length_identity_lt_of_mem_openedArguments hs ha
      exact ih a.identity.length hlt (wellNamed_of_mem_openedArguments s hs a ha) rfl
    obtain ⟨harguments, hrest⟩ := angled_eq_of_append hargs (wellNamed_of_mem_openedArguments t ht)
      (head?_behind_arguments hx) (head?_behind_arguments hy) hrest
    obtain ⟨hmarks, hxy⟩ := marks_eq_of_append hx hy hrest
    exact ⟨by rw [outline_eq s hs, outline_eq t ht, hopening, harguments, hmarks], hxy⟩

theorem identity_eq_iff (hs : s.WellNamed) (ht : t.WellNamed) :
    s.identity = t.identity ↔ s.outline = t.outline := by
  constructor
  · intro h
    have hnil : EndsType [] := by simp [EndsType]
    exact (isTold_of_wellNamed hs t [] [] ht hnil hnil (by simpa using h)).1
  · intro h
    rw [← identity_outline s, h, identity_outline t]

/-! ## Types inside types of their spelling -/

theorem identity_mem_iff {u : NamedType} {around : List NamedType} (hu : u.WellNamed)
    (haround : ∀ v ∈ around, v.WellNamed) :
    u.identity ∈ around.map NamedType.identity ↔ u.outline ∈ around.map NamedType.outline := by
  rw [List.mem_map, List.mem_map]
  refine exists_congr fun v => and_congr_right fun hv => ?_
  have h := identity_eq_iff (s := .named v) (t := .named u) (haround v hv) hu
  simpa [identity, outline] using h

/-- Two types without aliases and with names for types are spelled alike exactly if they have the same
outline. So the decomposition stops at a declared type exactly if no more types may be visited or if it is
inside a type of the same outline, and never because another type is spelled like it. -/
theorem identity_tells_outline :
    (∀ s t : TypeRef, s.WellNamed → t.WellNamed →
      (s.identity = t.identity ↔ s.outline = t.outline)) ∧
    ∀ (asyncPhrases : Bool) (budget : Nat) (around : List NamedType) (u : NamedType) (plural : Bool),
      u.WellNamed → (∀ v ∈ around, v.WellNamed) →
      variants asyncPhrases (budget + 1) (around.map NamedType.identity) (.named u) plural =
        if budget = 0 ∨ u.outline ∈ around.map NamedType.outline then u.ownVariants plural
        else u.unwrap asyncPhrases
          (variants asyncPhrases budget ((u :: around).map NamedType.identity)) plural := by
  refine ⟨fun s t hs ht => identity_eq_iff hs ht, ?_⟩
  intro asyncPhrases budget around u plural hu haround
  rw [variants, List.map_cons]
  simp only [identity_mem_iff hu haround]

/-- An interface inside a class that is spelled as it is gives its own name. -/
theorem identity_tells_outline_box :
    let outer : NamedType :=
      { name := "Box".toList, scope := "Acme.Store".toList
        arguments := [.nullable (.array (.predefined .int)), .typeParameter "T".toList] }
    let inner : NamedType :=
      { outer with kind := .interfaceType, base := some (.predefined .object) }
    outer.WellNamed ∧ inner.WellNamed ∧ outer ≠ inner ∧
      outer.identity = "Acme.Store.Box<int[]?, !T>".toList ∧
      ((named outer).identity = (named inner).identity ↔
        (named outer).outline = (named inner).outline) ∧
      variants false 4 ([outer].map NamedType.identity) (.named inner) false =
        inner.ownVariants false := by
  intro outer inner
  have hspelled : IsTypeName "Box".toList ∧
      (∀ part ∈ Text.splitOn '.' "Acme.Store".toList, IsTypeName part) ∧
      IsTypeName "T".toList := by decide +kernel
  obtain ⟨hname, hscope, hparameter⟩ := hspelled
  have hwell : outer.WellNamed ∧ inner.WellNamed :=
    ⟨⟨hname, Or.inr hscope, trivial, hparameter, trivial⟩,
      ⟨hname, Or.inr hscope, trivial, hparameter, trivial⟩⟩
  obtain ⟨hspelling, hguard⟩ := identity_tells_outline
  refine ⟨hwell.1, hwell.2, by decide, by decide, hspelling _ _ hwell.1 hwell.2, ?_⟩
  have hinside : inner.outline ∈ [outer].map NamedType.outline := List.mem_cons_self
  rw [hguard false 3 [outer] inner false hwell.2 (by simpa using hwell.1), if_pos (Or.inr hinside)]

end TypeRef

end Nomenclator
