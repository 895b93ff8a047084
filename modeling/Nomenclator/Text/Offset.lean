import Nomenclator.Text.Basic

/-!
# Texts by byte offset

A place in a text can be told by the number of bytes in front of it. A character takes one to four
bytes, so not every number is the offset of a place between two characters, and a text cannot be cut
at one that is not: the attempt is an error, which names the offset.

Main statements: `splitAt?_eq_some_iff` says at which offsets a text can be cut, and
`find?_charIndices` and `getLast?_charIndices` say at which offsets its characters are.
-/

namespace Nomenclator

/-- The text has no place between two of its characters at this offset. -/
structure OffBoundary where
  offset : Nat
  deriving DecidableEq, Repr

@[simp] theorem OffBoundary.ok_bind {α β : Type} (a : α) (f : α → Except OffBoundary β) :
    (Except.ok a >>= f) = f a := rfl

namespace Text

/-! ## Cutting at an offset -/

/-- The text in front of an offset and the text behind it, if it is between two characters. -/
def splitAt? : Text → Nat → Option (Text × Text)
  | t, 0 => some ([], t)
  | [], _ + 1 => none
  | c :: t, n + 1 =>
    if c.utf8Size ≤ n + 1 then
      (splitAt? t (n + 1 - c.utf8Size)).map fun (front, rest) => (c :: front, rest)
    else none

/-- The text from an offset on. -/
def sliceFrom (t : Text) (start : Nat) : Except OffBoundary Text :=
  match splitAt? t start with
  | some (_, rest) => .ok rest
  | none => .error ⟨start⟩

/-- The text up to an offset. -/
def sliceTo (t : Text) (stop : Nat) : Except OffBoundary Text :=
  match splitAt? t stop with
  | some (front, _) => .ok front
  | none => .error ⟨stop⟩

/-- The text between two offsets, of which the second is not before the first. -/
def slice (t : Text) (start stop : Nat) : Except OffBoundary Text := do
  let front ← t.sliceTo stop
  front.sliceFrom start

theorem splitAt?_zero (t : Text) : splitAt? t 0 = some ([], t) := by
  cases t <;> rfl

/-- A character in front is part of the front, unless the place is before it. -/
theorem splitAt?_cons_add (c : Char) (t : Text) (n : Nat) :
    splitAt? (c :: t) (c.utf8Size + n) =
      (splitAt? t n).map fun (front, rest) => (c :: front, rest) := by
  obtain ⟨k, hk⟩ : ∃ k, c.utf8Size = k + 1 := Nat.exists_eq_add_one.2 c.utf8Size_pos
  have hsize : c.utf8Size + n = k + n + 1 := by omega
  have hle : c.utf8Size ≤ k + n + 1 := by omega
  have hrest : k + n + 1 - c.utf8Size = n := by omega
  rw [hsize, splitAt?, if_pos hle, hrest]

theorem splitAt?_append (front rest : Text) :
    splitAt? (front ++ rest) (utf8Size front) = some (front, rest) := by
  induction front with
  | nil => exact splitAt?_zero rest
  | cons c front ih =>
    rw [List.cons_append, utf8Size_cons, splitAt?_cons_add, ih]
    rfl

/-- A text can be cut exactly at the sizes of its fronts. -/
theorem splitAt?_eq_some_iff {t front rest : Text} {n : Nat} :
    splitAt? t n = some (front, rest) ↔ t = front ++ rest ∧ n = utf8Size front := by
  constructor
  · intro h
    fun_induction splitAt? t n generalizing front with
    | case1 t =>
      cases h
      exact ⟨rfl, rfl⟩
    | case2 n => cases h
    | case3 c t n hle ih =>
      obtain ⟨⟨front', rest'⟩, hcut, hfront⟩ := Option.map_eq_some_iff.1 h
      cases hfront
      obtain ⟨rfl, hsize⟩ := ih hcut
      refine ⟨rfl, ?_⟩
      rw [utf8Size_cons]
      omega
    | case4 c t n hgt => cases h
  · rintro ⟨rfl, rfl⟩
    exact splitAt?_append front rest

@[simp] theorem sliceFrom_append (front rest : Text) :
    sliceFrom (front ++ rest) (utf8Size front) = .ok rest := by
  rw [sliceFrom, splitAt?_append]

@[simp] theorem sliceTo_append (front rest : Text) :
    sliceTo (front ++ rest) (utf8Size front) = .ok front := by
  rw [sliceTo, splitAt?_append]

/-- The text between two of its places. -/
theorem slice_append (front middle rest : Text) :
    slice (front ++ middle ++ rest) (utf8Size front) (utf8Size (front ++ middle)) = .ok middle := by
  rw [slice, sliceTo_append]
  exact sliceFrom_append front middle

/-- The second byte of `é` is none of its places, and behind the last byte there is none. -/
example : sliceFrom "é!".toList 1 = .error ⟨1⟩ ∧ slice "é!".toList 2 3 = .ok ['!'] ∧
    slice "é!".toList 2 0 = .error ⟨2⟩ ∧ sliceTo "é!".toList 4 = .error ⟨4⟩ :=
  ⟨rfl, rfl, rfl, rfl⟩

/-! ## Characters and their offsets -/

/-- The characters with their offsets, of which the first is given. -/
def charIndicesFrom (offset : Nat) : Text → List (Nat × Char)
  | [] => []
  | c :: t => (offset, c) :: charIndicesFrom (offset + c.utf8Size) t

/-- The characters with their offsets. -/
def charIndices (t : Text) : List (Nat × Char) := charIndicesFrom 0 t

theorem charIndicesFrom_append (offset : Nat) (a b : Text) :
    charIndicesFrom offset (a ++ b) =
      charIndicesFrom offset a ++ charIndicesFrom (offset + utf8Size a) b := by
  induction a generalizing offset with
  | nil => simp [charIndicesFrom]
  | cons c a ih => simp [charIndicesFrom, ih, Nat.add_assoc]

/-- The last character is behind the size of the others. -/
theorem getLast?_charIndices (front : Text) (c : Char) :
    (charIndices (front ++ [c])).getLast? = some (utf8Size front, c) := by
  rw [charIndices, charIndicesFrom_append, Nat.zero_add, charIndicesFrom, charIndicesFrom,
    List.getLast?_concat]

theorem find?_charIndicesFrom (p : Char → Bool) (t : Text) (offset : Nat) :
    (charIndicesFrom offset t).find? (fun (_, c) => !p c) =
      (t.dropWhile p).head?.map fun c => (offset + utf8Size (t.takeWhile p), c) := by
  induction t generalizing offset with
  | nil => rfl
  | cons c t ih =>
    by_cases hc : p c = true
    · simp [charIndicesFrom, hc, ih, Nat.add_assoc]
    · simp [charIndicesFrom, hc]

/-- The first character without a property is behind the size of those in front of it, which have
it. -/
theorem find?_charIndices (p : Char → Bool) (t : Text) :
    (charIndices t).find? (fun (_, c) => !p c) =
      (t.dropWhile p).head?.map fun c => (utf8Size (t.takeWhile p), c) := by
  rw [charIndices, find?_charIndicesFrom]
  simp

end Text

end Nomenclator
