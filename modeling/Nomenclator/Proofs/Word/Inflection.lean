import Nomenclator.Proofs.Unicode.Lowercase
import Nomenclator.Proofs.Word.Plural

/-!
# Plurals and the case of words

A plural is chosen by the small form of a word and made from the word as it is written. The two go
together for words of any characters: words that differ in ASCII case have plurals that differ in ASCII
case (`lowerAscii_pluralize_congr`), and where a final `y` is judged in the small form, the word ends with
`y` or its capital, which is what is cut off (`exists_eq_concat_of_endsInConsonantY`).

The plural of an irregular noun is that noun in the plural, so it is its own plural
(`pluralize_pluralize`). The plural of any other ASCII word follows its ending (`RegularPlural`).

Main statement: `pluralize_spec`.
-/

namespace Nomenclator.Word

/-! ## Irregular nouns -/

/-- The text is the noun of this entry in any case, in the singular or already in the plural. -/
def IsNounOf (entry : String × String) (t : Text) : Prop :=
  Unicode.lowercase t = entry.1.toList ∨ Unicode.lowercase t = entry.2.toList

/-- The text is an irregular noun. -/
def IsIrregular (t : Text) : Prop := ∃ entry ∈ irregularPlurals, IsNounOf entry t

instance (entry : String × String) (t : Text) : Decidable (IsNounOf entry t) :=
  inferInstanceAs (Decidable (_ ∨ _))

instance (t : Text) : Decidable (IsIrregular t) :=
  inferInstanceAs (Decidable (∃ entry ∈ irregularPlurals, IsNounOf entry t))

/-- No noun of the table is also a noun of an entry before its own, in either number. -/
theorem irregularPlural?_of_mem : ∀ entry ∈ irregularPlurals,
    irregularPlural? entry.1.toList = some entry.2.toList ∧
      irregularPlural? entry.2.toList = some entry.2.toList := by
  decide +kernel

theorem irregularPlural?_eq_none_iff {t : Text} :
    irregularPlural? (Unicode.lowercase t) = none ↔ ¬ IsIrregular t := by
  simp [irregularPlural?, IsIrregular, IsNounOf]

theorem pluralize_of_not_isIrregular {t : Text} (hne : t ≠ []) (h : ¬ IsIrregular t) :
    pluralize t =
      if endsInConsonantY (Unicode.lowercase t) then t.dropLast ++ "ies".toList
      else if endsInSibilant (Unicode.lowercase t) then t ++ "es".toList
      else t ++ "s".toList := by
  unfold pluralize
  rw [if_neg hne]
  simp only [irregularPlural?_eq_none_iff.2 h]

section FirstLetter

variable {many : Text} (hmany : IsSmall many)
include hmany

theorem IsSmall.toLower_eq_self {c : Char} (hc : c ∈ many) : c.toLower = c :=
  Unicode.toLower_eq_self (hmany c hc).1 (by simp [(hmany c hc).2])

theorem IsSmall.lowerAscii_eq_self : Text.lowerAscii many = many :=
  (List.map_congr_left fun _ hc => hmany.toLower_eq_self hc).trans (List.map_id many)

theorem IsSmall.lowercase_eq_self : Unicode.lowercase many = many :=
  Unicode.lowercase_eq_self (fun c hc => (hmany c hc).1) fun c hc => by simp [(hmany c hc).2]

/-- Nothing but the case of the first letter changes. -/
theorem lowerAscii_matchFirstLetter (pattern : Text) :
    Text.lowerAscii (matchFirstLetter pattern many) = many := by
  unfold matchFirstLetter
  split
  · rename_i p _ c rest
    split
    · have hc := (hmany c List.mem_cons_self).1
      have hself := hmany.lowerAscii_eq_self
      rw [Unicode.upper_ascii hc, List.singleton_append]
      rw [Text.lowerAscii_cons] at hself ⊢
      rw [Unicode.toLower_toUpper hc, hself]
    · exact hmany.lowerAscii_eq_self
  · exact hmany.lowerAscii_eq_self

/-- The first letter has been matched already. -/
theorem matchFirstLetter_matchFirstLetter (pattern : Text) :
    matchFirstLetter (matchFirstLetter pattern many) many = matchFirstLetter pattern many := by
  cases many with
  | nil => cases pattern <;> rfl
  | cons c rest =>
    obtain ⟨hc, hlower⟩ := hmany c List.mem_cons_self
    have hsmall : Unicode.isUppercase c = false := by
      cases hupper : Unicode.isUppercase c with
      | false => rfl
      | true => simp [CharClass.of, hupper] at hlower
    have hcapital : Unicode.isUppercase c.toUpper = true := by
      have hclass := Unicode.class_toUpper hc
      rw [if_pos hlower] at hclass
      exact CharClass.of_eq_upper_iff.1 hclass
    cases pattern with
    | nil => simp [matchFirstLetter, hsmall]
    | cons p pattern =>
      by_cases hp : Unicode.isUppercase p = true
      · simp [matchFirstLetter, hp, Unicode.upper_ascii hc, hcapital]
      · simp [matchFirstLetter, hp, hsmall]

end FirstLetter

theorem pluralize_of_isNounOf {entry : String × String} (hentry : entry ∈ irregularPlurals)
    {t : Text} (h : IsNounOf entry t) : pluralize t = matchFirstLetter t entry.2.toList := by
  have hfound : irregularPlural? (Unicode.lowercase t) = some entry.2.toList := by
    obtain ⟨hone, hmany⟩ := irregularPlural?_of_mem entry hentry
    rcases h with h | h
    · rw [h, hone]
    · rw [h, hmany]
  have hne : t ≠ [] := by
    rintro rfl
    have hnone : irregularPlural? (Unicode.lowercase []) = none := by decide
    rw [hnone] at hfound
    cases hfound
  unfold pluralize
  rw [if_neg hne]
  simp only [hfound]

/-- The plural of an irregular noun is the noun of its entry in the plural. -/
theorem lowerAscii_pluralize_of_isNounOf {entry : String × String}
    (hentry : entry ∈ irregularPlurals) {t : Text} (h : IsNounOf entry t) :
    Text.lowerAscii (pluralize t) = entry.2.toList := by
  rw [pluralize_of_isNounOf hentry h]
  exact lowerAscii_matchFirstLetter (isSmall_irregularPlurals entry hentry).2.1 t

theorem pluralize_pluralize {entry : String × String} (hentry : entry ∈ irregularPlurals)
    {t : Text} (h : IsNounOf entry t) : pluralize (pluralize t) = pluralize t := by
  have hsmall := (isSmall_irregularPlurals entry hentry).2.1
  have hplural : IsNounOf entry (pluralize t) := by
    right
    rw [← Unicode.lowercase_lowerAscii, lowerAscii_pluralize_of_isNounOf hentry h,
      hsmall.lowercase_eq_self]
  rw [pluralize_of_isNounOf hentry hplural, pluralize_of_isNounOf hentry h,
    matchFirstLetter_matchFirstLetter hsmall]

/-! ## Case -/

/-- Words that differ in ASCII case only have plurals that differ in ASCII case only. Their small forms are
the same, so both plurals are made in the same way. -/
theorem lowerAscii_pluralize_congr {s t : Text} (h : Text.lowerAscii s = Text.lowerAscii t) :
    Text.lowerAscii (pluralize s) = Text.lowerAscii (pluralize t) := by
  have hsmall : Unicode.lowercase s = Unicode.lowercase t := by
    rw [← Unicode.lowercase_lowerAscii s, h, Unicode.lowercase_lowerAscii]
  have hnil : s = [] ↔ t = [] := by
    rw [← Text.lowerAscii_eq_nil_iff, h, Text.lowerAscii_eq_nil_iff]
  have happend : ∀ ending, Text.lowerAscii (s ++ ending) = Text.lowerAscii (t ++ ending) := by
    intro ending
    unfold Text.lowerAscii at h ⊢
    rw [List.map_append, List.map_append, h]
  have hcut : ∀ ending,
      Text.lowerAscii (s.dropLast ++ ending) = Text.lowerAscii (t.dropLast ++ ending) := by
    intro ending
    unfold Text.lowerAscii at h ⊢
    rw [List.map_append, List.map_append, List.map_dropLast, List.map_dropLast, h]
  unfold pluralize
  rw [hsmall]
  by_cases hne : t = []
  · rw [if_pos (hnil.2 hne), if_pos hne]
  · rw [if_neg (mt hnil.1 hne), if_neg hne]
    simp only
    split
    · rename_i many hmany
      obtain ⟨-, hmany, -⟩ := irregularPlural?_eq_some hmany
      rw [lowerAscii_matchFirstLetter hmany, lowerAscii_matchFirstLetter hmany]
    · split
      · exact hcut _
      · split
        · exact happend _
        · exact happend _

/-! ## Endings -/

/-- The character is an ASCII letter and no vowel. -/
def IsConsonant (c : Char) : Prop := c.isAlpha = true ∧ c.toLower ∉ "aeiou".toList

instance (c : Char) : Decidable (IsConsonant c) := inferInstanceAs (Decidable (_ ∧ _))

/-- The word ends with a consonant and `y`, in any case. -/
def EndsWithConsonantY (t : Text) : Prop :=
  ∃ front c y, t = front ++ [c, y] ∧ IsConsonant c ∧ (y = 'y' ∨ y = 'Y')

/-- The word ends with a sound that takes `es`, in any case. -/
def EndsWithSibilant (t : Text) : Prop :=
  ∃ ending ∈ ["s", "x", "z", "ch", "sh"], ending.toList <:+ Text.lowerAscii t

/-- The plural of a word that is no irregular noun: a final `y` behind a consonant becomes `ies`, a
sibilant takes `es`, and any other ending `s`. -/
inductive RegularPlural (t : Text) : Text → Prop
  | ies {front : Text} {c y : Char} (ht : t = front ++ [c, y]) (hc : IsConsonant c)
      (hy : y = 'y' ∨ y = 'Y') : RegularPlural t (front ++ [c] ++ "ies".toList)
  | es (h : EndsWithSibilant t) : RegularPlural t (t ++ "es".toList)
  | s (hy : ¬ EndsWithConsonantY t) (h : ¬ EndsWithSibilant t) :
      RegularPlural t (t ++ "s".toList)

theorem endsInConsonantY_eq_true_iff {noun : Text} : endsInConsonantY noun = true ↔
    ∃ front c, noun = front ++ [c, 'y'] ∧ (Unicode.isAlphabetic c && !isVowel c) = true := by
  constructor
  · intro h
    unfold endsInConsonantY at h
    split at h
    · rename_i c rest hrev
      refine ⟨rest.reverse, c, ?_, h⟩
      rw [← List.reverse_reverse noun, hrev]
      simp
    · cases h
  · rintro ⟨front, c, rfl, hc⟩
    simpa [endsInConsonantY] using hc

/-- A small form that ends with `y` is the small form of a word that ends with `y` or its capital. -/
theorem exists_eq_concat_of_endsInConsonantY {t : Text}
    (h : endsInConsonantY (Unicode.lowercase t) = true) :
    ∃ front y, t = front ++ [y] ∧ (y = 'y' ∨ y = 'Y') := by
  obtain ⟨small, c, hsmall, -⟩ := endsInConsonantY_eq_true_iff.1 h
  have hlast : Unicode.lowercase t = (small ++ [c]) ++ ['y'] := by simpa using hsmall
  exact Unicode.exists_eq_concat_of_lowercase hlast

section Ascii

variable {t : Text} (ht : t.IsAscii)
include ht

theorem endsInConsonantY_iff :
    endsInConsonantY (Unicode.lowercase t) = true ↔ EndsWithConsonantY t := by
  have hconsonant : ∀ c ∈ t, (Unicode.isAlphabetic c.toLower && !isVowel c.toLower) = true ↔
      IsConsonant c := by
    intro c hc
    exact Unicode.forall_ascii
      (P := fun c => (Unicode.isAlphabetic c.toLower && !isVowel c.toLower) = true ↔ IsConsonant c)
      (by decide +kernel) (ht c hc)
  rw [endsInConsonantY_eq_true_iff, Unicode.lowercase_ascii ht]
  constructor
  · rintro ⟨small, d, hsmall, hd⟩
    obtain ⟨front, ending, rfl, -, hending⟩ := List.map_eq_append_iff.1 hsmall
    obtain ⟨c, rest, rfl, rfl, hrest⟩ := List.map_eq_cons_iff.1 hending
    obtain ⟨y, rfl, hy⟩ := List.map_eq_singleton_iff.1 hrest
    have hmem : 'y' ∈ Unicode.lower y := by
      rw [Unicode.lower_ascii (ht y (by simp)), hy]
      exact List.mem_singleton_self 'y'
    exact ⟨front, c, y, rfl, (hconsonant c (by simp)).1 hd, Unicode.eq_or_eq_of_mem_lower hmem⟩
  · rintro ⟨front, c, y, rfl, hc, hy⟩
    have hlower : y.toLower = 'y' := by
      rcases hy with rfl | rfl <;> rfl
    refine ⟨front.map Char.toLower, c.toLower, ?_, (hconsonant c (by simp)).2 hc⟩
    rw [List.map_append, List.map_cons, List.map_singleton, hlower]

theorem endsInSibilant_iff :
    endsInSibilant (Unicode.lowercase t) = true ↔ EndsWithSibilant t := by
  rw [Unicode.lowercase_ascii ht]
  simp only [endsInSibilant, List.any_eq_true, Text.endsWith_iff, EndsWithSibilant,
    Text.lowerAscii]

/-- The plural of an ASCII word that is no irregular noun follows its ending. -/
theorem regularPlural_pluralize (hne : t ≠ []) (h : ¬ IsIrregular t) :
    RegularPlural t (pluralize t) := by
  rw [pluralize_of_not_isIrregular hne h]
  split
  · rename_i hends
    obtain ⟨front, c, y, rfl, hc, hy⟩ := (endsInConsonantY_iff ht).1 hends
    have hcut : (front ++ [c, y]).dropLast = front ++ [c] := by simp
    rw [hcut]
    exact .ies rfl hc hy
  · rename_i hy
    split
    · rename_i hsibilant
      exact .es ((endsInSibilant_iff ht).1 hsibilant)
    · rename_i hsibilant
      exact .s (mt (endsInConsonantY_iff ht).2 hy) (mt (endsInSibilant_iff ht).2 hsibilant)

end Ascii

/-! ## Cutting -/

/-- The text is the word with `s` or `es` behind it, or with `ies` in place of its last character, which is
`y` or its capital and takes one byte. -/
def IsInflectionOf (t plural : Text) : Prop :=
  plural = t ++ "s".toList ∨ plural = t ++ "es".toList ∨
    ∃ front y, t = front ++ [y] ∧ (y = 'y' ∨ y = 'Y') ∧
      Text.utf8Size t = Text.utf8Size front + 1 ∧ plural = front ++ "ies".toList

/-- Whatever the characters of a word are, no more is cut off than a final `y`. -/
theorem isInflectionOf_pluralize {t : Text} (hne : t ≠ []) (h : ¬ IsIrregular t) :
    IsInflectionOf t (pluralize t) := by
  rw [pluralize_of_not_isIrregular hne h]
  split
  · rename_i hends
    obtain ⟨front, y, rfl, hy⟩ := exists_eq_concat_of_endsInConsonantY hends
    have hbyte : y.utf8Size = 1 := by
      rcases hy with rfl | rfl <;> rfl
    refine Or.inr (Or.inr ⟨front, y, rfl, hy, ?_, ?_⟩)
    · rw [Text.utf8Size_append, Text.utf8Size_cons, Text.utf8Size_nil, hbyte]
    · rw [List.dropLast_concat]
  · split
    · exact Or.inr (Or.inl rfl)
    · exact Or.inl rfl

/-! ## The whole -/

/-- Plurals do not depend on ASCII case, but for ASCII case. The plural of an irregular noun is the noun of
its entry in the plural and is its own plural. The plural of any other word is the word with an ending,
with no more cut off than a final `y`, and for an ASCII word the ending is the one that its last letters
take. -/
theorem pluralize_spec :
    (∀ s t : Text, Text.lowerAscii s = Text.lowerAscii t →
      Text.lowerAscii (pluralize s) = Text.lowerAscii (pluralize t)) ∧
    (∀ entry ∈ irregularPlurals, ∀ t, IsNounOf entry t →
      Text.lowerAscii (pluralize t) = entry.2.toList ∧ pluralize (pluralize t) = pluralize t) ∧
    ∀ t : Text, t ≠ [] → ¬ IsIrregular t →
      IsInflectionOf t (pluralize t) ∧ (t.IsAscii → RegularPlural t (pluralize t)) := by
  refine ⟨fun s t => lowerAscii_pluralize_congr, fun entry hentry t h => ?_, fun t hne h => ?_⟩
  · exact ⟨lowerAscii_pluralize_of_isNounOf hentry h, pluralize_pluralize hentry h⟩
  · exact ⟨isInflectionOf_pluralize hne h, fun ht => regularPlural_pluralize ht hne h⟩

/-- Of `CITY` the plural is `CITies`, which is the plural of `city` in another case, and the plural of
`Index` is `Indices`, which is its own plural. -/
theorem pluralize_spec_city :
    (Text.lowerAscii "CITY".toList = Text.lowerAscii "city".toList ∧
      Text.lowerAscii (pluralize "CITY".toList) = Text.lowerAscii (pluralize "city".toList)) ∧
    (("index", "indices") ∈ irregularPlurals ∧ IsNounOf ("index", "indices") "Index".toList ∧
      pluralize (pluralize "Index".toList) = pluralize "Index".toList ∧
      pluralize "Index".toList = "Indices".toList) ∧
    ("CITY".toList ≠ [] ∧ ¬ IsIrregular "CITY".toList ∧ Text.IsAscii "CITY".toList ∧
      RegularPlural "CITY".toList "CITies".toList) := by
  obtain ⟨hcase, hirregular, hregular⟩ := pluralize_spec
  have hindex : ("index", "indices") ∈ irregularPlurals ∧
      IsNounOf ("index", "indices") "Index".toList ∧
      pluralize "Index".toList = "Indices".toList := by decide +kernel
  have hcity : "CITY".toList ≠ [] ∧ ¬ IsIrregular "CITY".toList ∧
      pluralize "CITY".toList = "CITies".toList := by
    decide +kernel
  have hascii : Text.IsAscii "CITY".toList := by simp [Text.IsAscii]
  have hsame : Text.lowerAscii "CITY".toList = Text.lowerAscii "city".toList := by decide +kernel
  obtain ⟨hne, hnot, hplural⟩ := hcity
  refine ⟨⟨hsame, hcase _ _ hsame⟩, ⟨hindex.1, hindex.2.1, ?_, hindex.2.2⟩, hne, hnot, hascii, ?_⟩
  · exact (hirregular _ hindex.1 _ hindex.2.1).2
  · rw [← hplural]
    exact (hregular _ hne hnot).2 hascii

end Nomenclator.Word
