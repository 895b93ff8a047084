import Nomenclator.Json.Printer
import Nomenclator.Proofs.Json.Reading
import Nomenclator.Proofs.Uuid

/-!
# Strings are read as they are written

A character of a string is written as it is, or as a backslash and what stands for the character
behind one (`escapedChar_cases`). Whichever it is, the reader takes the character and goes on behind
it, so it takes the whole string up to the closing quote (`exists_stringFrom`).
-/

namespace Nomenclator.Json

/-! ## Escapes -/

theorem hexQuad_hexDigits {n : Nat} (hn : n < 16 ^ 4) (p : Position) (t : Text) :
    hexQuad p (Uuid.hexDigits n 4 ++ t) = .ok n := by
  have hlength : (Uuid.hexDigits n 4).length = 4 := Uuid.length_hexDigits n 4
  have hsize : 4 ≤ Text.utf8Size (Uuid.hexDigits n 4) := hlength ▸ Text.length_le_utf8Size _
  have hnumber : Uuid.numberFrom? 0 (Uuid.hexDigits n 4) = some n := by
    rw [Uuid.numberFrom?_hexDigits, Nat.mod_eq_of_lt hn, Nat.zero_mul, Nat.zero_add]
  rw [hexQuad, List.take_left' hlength, if_neg (by omega), hnumber]

/-- The text behind a backslash that stands for a character. -/
def IsEscape (c : Char) (escape : Text) : Prop :=
  ∀ p t, escapeFrom p (escape ++ t) = .ok (c, escape.length)

theorem isEscape_of_simpleEscape? {c d : Char} (hu : d ≠ 'u') (h : simpleEscape? d = some c) :
    IsEscape c [d] := by
  intro p t
  rw [List.singleton_append, escapeFrom]
  · rw [h]
    rfl
  · rintro rfl
    exact hu rfl

/-- Controls are no surrogates. -/
theorem isEscape_hexDigits {c : Char} (hc : c.toNat < 0x20) :
    IsEscape c ('u' :: Uuid.hexDigits c.toNat 4) := by
  intro p t
  have hhigh : isHighSurrogate c.toNat = false := by
    simp [isHighSurrogate]
    omega
  have hlow : isLowSurrogate c.toNat = false := by
    simp [isLowSurrogate]
    omega
  rw [List.cons_append, escapeFrom, hexQuad_hexDigits (by omega)]
  simp [bind, Except.bind, hhigh, hlow]

/-- The characters that are escaped by a letter. -/
def lettered : List Char := ['"', '\\', '\x08', '\x0c', '\n', '\r', '\t']

/-- Each of them is read from the letter that it is written by. -/
theorem exists_letter {c : Char} (h : c ∈ lettered) :
    ∃ d, d ≠ 'u' ∧ simpleEscape? d = some c ∧ escapedChar c = ['\\', d] := by
  simp only [lettered, List.mem_cons, List.not_mem_nil, or_false] at h
  rcases h with rfl | rfl | rfl | rfl | rfl | rfl | rfl
  · exact ⟨'"', by decide, rfl, rfl⟩
  · exact ⟨'\\', by decide, rfl, rfl⟩
  · exact ⟨'b', by decide, rfl, rfl⟩
  · exact ⟨'f', by decide, rfl, rfl⟩
  · exact ⟨'n', by decide, rfl, rfl⟩
  · exact ⟨'r', by decide, rfl, rfl⟩
  · exact ⟨'t', by decide, rfl, rfl⟩

/-- A character is written as it is or as an escape that stands for it. -/
theorem escapedChar_cases (c : Char) :
    (escapedChar c = [c] ∧ c ≠ '"' ∧ c ≠ '\\' ∧ isControl c = false) ∨
      ∃ escape, escapedChar c = '\\' :: escape ∧ IsEscape c escape := by
  by_cases hletter : c ∈ lettered
  · obtain ⟨d, hu, hd, hc⟩ := exists_letter hletter
    exact Or.inr ⟨[d], hc, isEscape_of_simpleEscape? hu hd⟩
  · simp only [lettered, List.mem_cons, List.not_mem_nil, or_false, not_or] at hletter
    obtain ⟨hquote, hbackslash, hb, hf, hn, hr, ht⟩ := hletter
    rw [escapedChar, if_neg hquote, if_neg hbackslash, if_neg hb, if_neg hf, if_neg hn, if_neg hr,
      if_neg ht]
    by_cases hcontrol : c.toNat < 0x20
    · rw [if_pos hcontrol]
      exact Or.inr ⟨_, rfl, isEscape_hexDigits hcontrol⟩
    · rw [if_neg hcontrol]
      exact Or.inl ⟨rfl, hquote, hbackslash, by simpa [isControl] using hcontrol⟩

/-! ## Strings -/

/-- The reader takes one written character and goes on behind it. -/
theorem stringFrom_escapedChar (c : Char) (p : Position) (t : Text) :
    ∃ p', stringFrom p (escapedChar c ++ t) =
      (stringFrom p' t).map fun (s, after) => (c :: s, after) := by
  rcases escapedChar_cases c with ⟨hc, hquote, hbackslash, hcontrol⟩ | ⟨escape, hc, hescape⟩
  · refine ⟨p.past c, ?_⟩
    rw [hc, List.singleton_append, stringFrom, if_neg hquote, if_neg hbackslash,
      if_neg (by simp [hcontrol])]
  · refine ⟨p.shift (escape.length + 1), ?_⟩
    rw [hc, List.cons_append, stringFrom, if_neg (by decide), if_pos rfl, hescape]
    simp only [List.drop_left]

/-- The induction is on the string, one written character at a time. -/
theorem exists_stringFrom (s rest : Text) (p : Position) :
    ∃ p', stringFrom p (s.flatMap escapedChar ++ '"' :: rest) = .ok (s, rest, p') := by
  induction s generalizing p with
  | nil =>
    refine ⟨p.past '"', ?_⟩
    rw [List.flatMap_nil, List.nil_append, stringFrom, if_pos rfl]
  | cons c s ih =>
    obtain ⟨between, hc⟩ := stringFrom_escapedChar c p (s.flatMap escapedChar ++ '"' :: rest)
    obtain ⟨p', hs⟩ := ih between
    refine ⟨p', ?_⟩
    rw [List.flatMap_cons, List.append_assoc, hc, hs]
    rfl

namespace Reader

theorem renderString_append (s rest : Text) :
    renderString s ++ rest = '"' :: (s.flatMap escapedChar ++ '"' :: rest) := by
  simp [renderString]

/-- Behind the opening quote, the string is taken with its closing quote. -/
theorem reads_stringBody {room : Nat} (s rest : Text) :
    Reads stringBody room (s.flatMap escapedChar ++ '"' :: rest) s rest := by
  intro position
  obtain ⟨position', hs⟩ := exists_stringFrom s rest position
  refine ⟨position', ?_⟩
  simp only [stringBody, hs]

theorem reads_memberName {room : Nat} (name rest : Text) :
    Reads memberName room (renderString name ++ rest) name rest := by
  rw [renderString_append]
  exact (reads_advance '"' _).bind (reads_stringBody name rest)

end Reader

end Nomenclator.Json
