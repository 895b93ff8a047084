/-!
# Texts as lists of characters

Names, affixes, configuration values and JSON documents are all lists of characters. This file
holds the operations on them that know nothing about what a text means: removing an affix,
cutting at a separator, joining pieces, and comparing while ignoring ASCII case.

Main statements:

* `dropPrefix?_eq_some_iff` and `dropSuffix?_eq_some_iff` say exactly which texts lose an affix.
* `joinWith_splitOn` says that cutting at a character loses nothing but the character.
* `utf8Size_append` says that the sizes of texts in a row add up.
-/

namespace Nomenclator

/-- A text: its characters in order. -/
abbrev Text := List Char

namespace Text

/-! ## Affixes -/

/-- The text behind `p`, if the text starts with `p`. -/
def dropPrefix? : Text → Text → Option Text
  | [], t => some t
  | _ :: _, [] => none
  | a :: p, c :: t => if a = c then dropPrefix? p t else none

/-- The text before `p`, if the text ends with `p`. -/
def dropSuffix? (p t : Text) : Option Text :=
  (dropPrefix? p.reverse t.reverse).map List.reverse

/-- The text ends with `p`. -/
def endsWith (p t : Text) : Bool := (dropSuffix? p t).isSome

theorem dropPrefix?_eq_some_iff {p t r : Text} : dropPrefix? p t = some r ↔ t = p ++ r := by
  induction p generalizing t with
  | nil => simp [dropPrefix?]
  | cons a p ih =>
    cases t with
    | nil => simp [dropPrefix?]
    | cons c t =>
      by_cases h : a = c
      · subst h
        simp [dropPrefix?, ih]
      · simp [dropPrefix?, h, Ne.symm h]

theorem dropSuffix?_eq_some_iff {p t r : Text} : dropSuffix? p t = some r ↔ t = r ++ p := by
  constructor
  · intro h
    obtain ⟨q, hq, rfl⟩ := Option.map_eq_some_iff.1 h
    have ht := congrArg List.reverse (dropPrefix?_eq_some_iff.1 hq)
    simpa using ht
  · rintro rfl
    refine Option.map_eq_some_iff.2 ⟨r.reverse, ?_, List.reverse_reverse r⟩
    exact dropPrefix?_eq_some_iff.2 (by simp)

/-! ## Cutting and joining -/

/-- The pieces between the occurrences of a character; always at least one piece. -/
def splitOn (sep : Char) : Text → List Text
  | [] => [[]]
  | c :: t =>
    if c = sep then [] :: splitOn sep t
    else
      match splitOn sep t with
      | [] => [[c]]
      | p :: ps => (c :: p) :: ps

/-- The pieces between the occurrences of a separator text, taken from the left without overlap.
The number counts the characters of a separator already found that are still to be passed. -/
def splitOnTextFrom (sep : Text) : Nat → Text → List Text
  | _, [] => [[]]
  | k + 1, _ :: t => splitOnTextFrom sep k t
  | 0, c :: t =>
    if (dropPrefix? sep (c :: t)).isSome then [] :: splitOnTextFrom sep (sep.length - 1) t
    else
      match splitOnTextFrom sep 0 t with
      | [] => [[c]]
      | p :: ps => (c :: p) :: ps

/-- The pieces between the occurrences of a separator text that is not empty. -/
def splitOnText (sep t : Text) : List Text := splitOnTextFrom sep 0 t

/-- The text before and the text after the first occurrence of a character. -/
def splitOnce? (sep : Char) : Text → Option (Text × Text)
  | [] => none
  | c :: t => if c = sep then some ([], t) else (splitOnce? sep t).map fun (a, b) => (c :: a, b)

/-- The text before and the text after the last occurrence of a character. -/
def splitLast? (sep : Char) (t : Text) : Option (Text × Text) :=
  (splitOnce? sep t.reverse).map fun (a, b) => (b.reverse, a.reverse)

/-- The pieces in a row with `sep` between them. -/
def joinWith (sep : Text) : List Text → Text
  | [] => []
  | [p] => p
  | p :: q :: ps => p ++ sep ++ joinWith sep (q :: ps)

/-- The lines of a text: the pieces between line feeds, where a final line feed ends the last
line and starts no other. -/
def lines (t : Text) : List Text :=
  match t.getLast? with
  | none => []
  | some '\n' => (splitOn '\n' t).dropLast
  | some _ => splitOn '\n' t

theorem splitOn_ne_nil (sep : Char) (t : Text) : splitOn sep t ≠ [] := by
  cases t with
  | nil => simp [splitOn]
  | cons c t =>
    simp only [splitOn]
    split
    · simp
    · split <;> simp

theorem joinWith_splitOn (sep : Char) (t : Text) : joinWith [sep] (splitOn sep t) = t := by
  induction t with
  | nil => simp [splitOn, joinWith]
  | cons c t ih =>
    simp only [splitOn]
    cases h : splitOn sep t with
    | nil => exact absurd h (splitOn_ne_nil sep t)
    | cons p ps =>
      rw [h] at ih
      by_cases hc : c = sep
      · simp [hc, joinWith, ih]
      · cases ps with
        | nil => simpa [hc, joinWith] using ih
        | cons q qs => simpa [hc, joinWith] using ih

/-! ## ASCII case -/

/-- The text with its ASCII capitals made small; no other character changes. -/
def lowerAscii (t : Text) : Text := t.map Char.toLower

/-- The two texts differ in ASCII case only. -/
def eqIgnoringCase (a b : Text) : Bool := lowerAscii a == lowerAscii b

/-! ## Size -/

/-- The number of bytes that the text takes in UTF-8. -/
def utf8Size (t : Text) : Nat := t.foldl (fun size c => size + c.utf8Size) 0

theorem foldl_utf8Size (t : Text) (size : Nat) :
    t.foldl (fun size c => size + c.utf8Size) size = size + utf8Size t := by
  induction t generalizing size with
  | nil => rfl
  | cons c t ih =>
    rw [utf8Size, List.foldl_cons, List.foldl_cons, ih, ih, Nat.zero_add, Nat.add_assoc]

@[simp] theorem utf8Size_nil : utf8Size [] = 0 := rfl

@[simp] theorem utf8Size_cons (c : Char) (t : Text) :
    utf8Size (c :: t) = c.utf8Size + utf8Size t := by
  rw [utf8Size, List.foldl_cons, foldl_utf8Size, Nat.zero_add]

@[simp] theorem utf8Size_append (a b : Text) : utf8Size (a ++ b) = utf8Size a + utf8Size b := by
  induction a with
  | nil => simp
  | cons c a ih => simp [ih, Nat.add_assoc]

/-- Every character takes a byte. -/
theorem length_le_utf8Size (t : Text) : t.length ≤ utf8Size t := by
  induction t with
  | nil => simp
  | cons c t ih =>
    have hc : 0 < c.utf8Size := c.utf8Size_pos
    rw [List.length_cons, utf8Size_cons]
    omega

end Text

end Nomenclator
