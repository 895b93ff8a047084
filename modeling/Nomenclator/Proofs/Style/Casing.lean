import Nomenclator.Proofs.Unicode.Ascii
import Nomenclator.Proofs.Word.Boundary
import Nomenclator.Style.Basic

/-!
# Cased words

What a scheme does to the words of a name, for ASCII words. Two facts carry all that follows:

* casing changes nothing but the case of letters (`lowerAscii_caseFirst`, `lowerAscii_caseLater`);
* the pieces that a scheme makes of words are recognised by the classes of their characters
  (`Capitalization.Cased`), and a scheme leaves such pieces as they are when they are words again
  (`cased_caseWords`, `caseWords_ofText`).

The second fact needs to know of a word that it is marked as an acronym if it has a capital behind
its first character (`Word.IsRegular`): camel case makes an acronym small as a whole, and keeps all
but the first letter of other words.
-/

namespace Nomenclator

/-! ## Classes in a text -/

namespace Text

/-- No character of the text has the class. -/
def Lacks (cls : CharClass) (t : Text) : Prop := ∀ c ∈ t, CharClass.of c ≠ cls

/-- The text does not start with a character of the class. -/
def NotFirst (cls : CharClass) (t : Text) : Prop := ∀ c ∈ t.head?, CharClass.of c ≠ cls

theorem lacks_nil (cls : CharClass) : Lacks cls [] := by
  intro c hc
  cases hc

theorem lacks_cons {cls : CharClass} {c : Char} {t : Text} :
    Lacks cls (c :: t) ↔ CharClass.of c ≠ cls ∧ Lacks cls t := by
  simp [Lacks]

theorem lacks_append {cls : CharClass} {s t : Text} :
    Lacks cls (s ++ t) ↔ Lacks cls s ∧ Lacks cls t := by
  simp only [Lacks, List.mem_append]
  constructor
  · exact fun h => ⟨fun c hc => h c (Or.inl hc), fun c hc => h c (Or.inr hc)⟩
  · rintro ⟨hs, ht⟩ c (hc | hc)
    · exact hs c hc
    · exact ht c hc

theorem notFirst_cons {cls : CharClass} {c : Char} {t : Text} :
    NotFirst cls (c :: t) ↔ CharClass.of c ≠ cls := by
  simp [NotFirst]

theorem Lacks.notFirst {cls : CharClass} {t : Text} (h : Lacks cls t) : NotFirst cls t :=
  fun c hc => h c (List.mem_of_head? hc)

theorem lacks_upper_map_toLower {t : Text} (ht : t.IsAscii) : Lacks .upper (t.map Char.toLower) := by
  intro d hd
  obtain ⟨c, hc, rfl⟩ := List.mem_map.1 hd
  rw [Unicode.class_toLower (ht c hc)]
  split
  · decide
  · assumption

theorem lacks_lower_map_toUpper {t : Text} (ht : t.IsAscii) : Lacks .lower (t.map Char.toUpper) := by
  intro d hd
  obtain ⟨c, hc, rfl⟩ := List.mem_map.1 hd
  rw [Unicode.class_toUpper (ht c hc)]
  split
  · decide
  · assumption

/-! ## What does not depend on case -/

@[simp] theorem lowerAscii_nil : lowerAscii [] = [] := rfl

@[simp] theorem lowerAscii_cons (c : Char) (t : Text) :
    lowerAscii (c :: t) = c.toLower :: lowerAscii t := rfl

theorem lowerAscii_map_toLower {t : Text} (ht : t.IsAscii) :
    lowerAscii (t.map Char.toLower) = lowerAscii t := by
  rw [lowerAscii, List.map_map]
  exact List.map_congr_left fun c hc => Unicode.toLower_toLower (ht c hc)

theorem lowerAscii_map_toUpper {t : Text} (ht : t.IsAscii) :
    lowerAscii (t.map Char.toUpper) = lowerAscii t := by
  rw [lowerAscii, List.map_map]
  exact List.map_congr_left fun c hc => Unicode.toLower_toUpper (ht c hc)

theorem isAscii_lowerAscii {t : Text} : IsAscii (lowerAscii t) ↔ IsAscii t := by
  simp [IsAscii, lowerAscii, Unicode.toLower_lt_iff]

theorem lowerAscii_eq_nil_iff {t : Text} : lowerAscii t = [] ↔ t = [] := List.map_eq_nil_iff

/-- What does not tell the two classes of letters apart does not depend on case. -/
theorem forall_class_lowerAscii {P : CharClass → Prop} (h : P .upper ↔ P .lower) {t : Text}
    (ht : t.IsAscii) :
    (∀ c ∈ lowerAscii t, P (CharClass.of c)) ↔ ∀ c ∈ t, P (CharClass.of c) := by
  have hclass : ∀ c ∈ t, P (CharClass.of c.toLower) ↔ P (CharClass.of c) := by
    intro c hc
    rw [Unicode.class_toLower (ht c hc)]
    split
    · rename_i hupper
      rw [hupper, h]
    · rfl
  simp only [lowerAscii, List.mem_map, forall_exists_index, and_imp, forall_apply_eq_imp_iff₂]
  exact forall₂_congr hclass

/-- Texts that differ in case only agree on classes other than those of letters. -/
theorem forall_class_iff {P : CharClass → Prop} (h : P .upper ↔ P .lower) {s t : Text}
    (hcase : lowerAscii s = lowerAscii t) (ht : t.IsAscii) :
    (∀ c ∈ s, P (CharClass.of c)) ↔ ∀ c ∈ t, P (CharClass.of c) := by
  have hs : s.IsAscii := by rwa [← isAscii_lowerAscii, hcase, isAscii_lowerAscii]
  rw [← forall_class_lowerAscii h hs, hcase, forall_class_lowerAscii h ht]

end Text

/-! ## Casing an ASCII word -/

theorem capitalize_cons {c : Char} (hc : c.toNat < 128) (t : Text) :
    capitalize (c :: t) = c.toUpper :: t := by
  simp [capitalize, Unicode.upper_ascii hc]

theorem decapitalize_cons {c : Char} (hc : c.toNat < 128) (t : Text) :
    decapitalize (c :: t) = c.toLower :: t := by
  simp [decapitalize, Unicode.lower_ascii hc]

theorem sentenceCase_cons {c : Char} {t : Text} (h : Text.IsAscii (c :: t)) :
    sentenceCase (c :: t) = c.toUpper :: t.map Char.toLower := by
  obtain ⟨hc, ht⟩ := Text.isAscii_cons.1 h
  simp [sentenceCase, Unicode.upper_ascii hc, Unicode.lowercase_ascii ht]

theorem lowerAscii_capitalize {t : Text} (ht : t.IsAscii) :
    Text.lowerAscii (capitalize t) = Text.lowerAscii t := by
  cases t with
  | nil => rfl
  | cons c t =>
    have hc := (Text.isAscii_cons.1 ht).1
    simp [capitalize_cons hc, Unicode.toLower_toUpper hc]

theorem lowerAscii_decapitalize {t : Text} (ht : t.IsAscii) :
    Text.lowerAscii (decapitalize t) = Text.lowerAscii t := by
  cases t with
  | nil => rfl
  | cons c t =>
    have hc := (Text.isAscii_cons.1 ht).1
    simp [decapitalize_cons hc, Unicode.toLower_toLower hc]

theorem lowerAscii_sentenceCase {t : Text} (ht : t.IsAscii) :
    Text.lowerAscii (sentenceCase t) = Text.lowerAscii t := by
  cases t with
  | nil => rfl
  | cons c t =>
    obtain ⟨hc, htail⟩ := Text.isAscii_cons.1 ht
    simp [sentenceCase_cons ht, Unicode.toLower_toUpper hc, Text.lowerAscii_map_toLower htail]

theorem lowerAscii_lowercase {t : Text} (ht : t.IsAscii) :
    Text.lowerAscii (Unicode.lowercase t) = Text.lowerAscii t := by
  rw [Unicode.lowercase_ascii ht, Text.lowerAscii_map_toLower ht]

theorem lowerAscii_uppercase {t : Text} (ht : t.IsAscii) :
    Text.lowerAscii (Unicode.uppercase t) = Text.lowerAscii t := by
  rw [Unicode.uppercase_ascii ht, Text.lowerAscii_map_toUpper ht]

namespace Capitalization

/-- Casing the first word changes nothing but case. -/
theorem lowerAscii_caseFirst (scheme : Capitalization) {w : Word} (hw : w.text.IsAscii) :
    Text.lowerAscii (scheme.caseFirst w) = Text.lowerAscii w.text := by
  cases scheme with
  | pascalCase => exact lowerAscii_capitalize hw
  | camelCase =>
    simp only [caseFirst]
    split
    · exact lowerAscii_lowercase hw
    · exact lowerAscii_decapitalize hw
  | firstWordUpper => exact lowerAscii_sentenceCase hw
  | allUpper => exact lowerAscii_uppercase hw
  | allLower => exact lowerAscii_lowercase hw

/-- Casing a later word changes nothing but case. -/
theorem lowerAscii_caseLater (scheme : Capitalization) {w : Word} (hw : w.text.IsAscii) :
    Text.lowerAscii (scheme.caseLater w) = Text.lowerAscii w.text := by
  cases scheme with
  | pascalCase | camelCase => exact lowerAscii_capitalize hw
  | firstWordUpper | allLower => exact lowerAscii_lowercase hw
  | allUpper => exact lowerAscii_uppercase hw

/-! ## Cased pieces -/

/-- The scheme leaves such a piece at the front of a name as it is. -/
def FirstCased : Capitalization → Text → Prop
  | .pascalCase, p => p.NotFirst .lower
  | .camelCase, p => p.Lacks .upper
  | .firstWordUpper, p => p.NotFirst .lower ∧ Text.Lacks .upper p.tail
  | .allUpper, p => p.Lacks .lower
  | .allLower, p => p.Lacks .upper

/-- The scheme leaves such a piece behind others as it is. -/
def LaterCased : Capitalization → Text → Prop
  | .pascalCase, p | .camelCase, p => p.NotFirst .lower
  | .firstWordUpper, p | .allLower, p => p.Lacks .upper
  | .allUpper, p => p.Lacks .lower

/-- The scheme leaves such pieces as they are. -/
def Cased (scheme : Capitalization) : List Text → Prop
  | [] => True
  | p :: ps => scheme.FirstCased p ∧ ∀ q ∈ ps, scheme.LaterCased q

end Capitalization

/-- A word of ASCII letters and numerals that is marked as an acronym if it has a capital behind its
first character. The words of ASCII names are so, and their plurals. -/
structure Word.IsRegular (w : Word) : Prop where
  ne_nil : w.text ≠ []
  isAscii : w.text.IsAscii
  lacks_separator : w.text.Lacks .separator
  marked : w.acronym = false → Text.Lacks .upper w.text.tail

theorem notFirst_capitalize {t : Text} (ht : t.IsAscii) : (capitalize t).NotFirst .lower := by
  cases t with
  | nil => intro c hc; cases hc
  | cons c t =>
    have hc := (Text.isAscii_cons.1 ht).1
    rw [capitalize_cons hc, Text.notFirst_cons, Unicode.class_toUpper hc]
    split
    · decide
    · assumption

theorem capitalize_eq_self {t : Text} (ht : t.IsAscii) (h : t.NotFirst .lower) :
    capitalize t = t := by
  cases t with
  | nil => rfl
  | cons c t =>
    have hc := (Text.isAscii_cons.1 ht).1
    rw [capitalize_cons hc, Unicode.toUpper_eq_self hc (Text.notFirst_cons.1 h)]

theorem lacks_upper_lowercase {t : Text} (ht : t.IsAscii) :
    (Unicode.lowercase t).Lacks .upper := by
  rw [Unicode.lowercase_ascii ht]
  exact Text.lacks_upper_map_toLower ht

theorem lacks_lower_uppercase {t : Text} (ht : t.IsAscii) :
    (Unicode.uppercase t).Lacks .lower := by
  rw [Unicode.uppercase_ascii ht]
  exact Text.lacks_lower_map_toUpper ht

theorem lacks_upper_decapitalize {t : Text} (ht : t.IsAscii) (h : Text.Lacks .upper t.tail) :
    (decapitalize t).Lacks .upper := by
  cases t with
  | nil => exact Text.lacks_nil _
  | cons c t =>
    have hc := (Text.isAscii_cons.1 ht).1
    rw [decapitalize_cons hc, Text.lacks_cons, Unicode.class_toLower hc]
    refine ⟨?_, h⟩
    split
    · decide
    · assumption

theorem decapitalize_eq_self {t : Text} (ht : t.IsAscii) (h : t.Lacks .upper) :
    decapitalize t = t := by
  cases t with
  | nil => rfl
  | cons c t =>
    have hc := (Text.isAscii_cons.1 ht).1
    rw [decapitalize_cons hc, Unicode.toLower_eq_self hc (Text.lacks_cons.1 h).1]

theorem sentenceCase_eq_self {t : Text} (ht : t.IsAscii) (hfirst : t.NotFirst .lower)
    (htail : Text.Lacks .upper t.tail) : sentenceCase t = t := by
  cases t with
  | nil => rfl
  | cons c t =>
    obtain ⟨hc, ht'⟩ := Text.isAscii_cons.1 ht
    rw [sentenceCase_cons ht, Unicode.toUpper_eq_self hc (Text.notFirst_cons.1 hfirst),
      ← Unicode.lowercase_ascii ht', Unicode.lowercase_eq_self ht' htail]

namespace Capitalization

/-- A scheme makes a first piece of the first word. -/
theorem firstCased_caseFirst (scheme : Capitalization) {w : Word} (hw : w.IsRegular) :
    scheme.FirstCased (scheme.caseFirst w) := by
  have hascii := hw.isAscii
  cases scheme with
  | pascalCase => exact notFirst_capitalize hascii
  | camelCase =>
    simp only [caseFirst, FirstCased]
    split
    · exact lacks_upper_lowercase hascii
    · rename_i hacronym
      exact lacks_upper_decapitalize hascii (hw.marked (by simpa using hacronym))
  | firstWordUpper =>
    obtain ⟨c, t, htext⟩ := List.exists_cons_of_ne_nil hw.ne_nil
    rw [htext] at hascii
    have hfirst := notFirst_capitalize hascii
    obtain ⟨hc, ht⟩ := Text.isAscii_cons.1 hascii
    rw [capitalize_cons hc, Text.notFirst_cons] at hfirst
    simp only [caseFirst, FirstCased, htext, sentenceCase_cons hascii]
    exact ⟨Text.notFirst_cons.2 hfirst, Text.lacks_upper_map_toLower ht⟩
  | allUpper => exact lacks_lower_uppercase hascii
  | allLower => exact lacks_upper_lowercase hascii

/-- A scheme makes a later piece of a later word. -/
theorem laterCased_caseLater (scheme : Capitalization) {w : Word} (hw : w.text.IsAscii) :
    scheme.LaterCased (scheme.caseLater w) := by
  cases scheme with
  | pascalCase | camelCase => exact notFirst_capitalize hw
  | firstWordUpper | allLower => exact lacks_upper_lowercase hw
  | allUpper => exact lacks_lower_uppercase hw

/-- A first piece is left as it is. -/
theorem caseFirst_ofText {scheme : Capitalization} {p : Text} (hp : p.IsAscii)
    (h : scheme.FirstCased p) : scheme.caseFirst (.ofText p) = p := by
  cases scheme with
  | pascalCase => exact capitalize_eq_self hp h
  | camelCase =>
    simp only [caseFirst, Word.text_ofText]
    split
    · exact Unicode.lowercase_eq_self hp h
    · exact decapitalize_eq_self hp h
  | firstWordUpper => exact sentenceCase_eq_self hp h.1 h.2
  | allUpper => exact Unicode.uppercase_eq_self hp h
  | allLower => exact Unicode.lowercase_eq_self hp h

/-- A later piece is left as it is. -/
theorem caseLater_ofText {scheme : Capitalization} {p : Text} (hp : p.IsAscii)
    (h : scheme.LaterCased p) : scheme.caseLater (.ofText p) = p := by
  cases scheme with
  | pascalCase | camelCase => exact capitalize_eq_self hp h
  | firstWordUpper | allLower => exact Unicode.lowercase_eq_self hp h
  | allUpper => exact Unicode.uppercase_eq_self hp h

/-- What a scheme makes of words it leaves as it is. -/
theorem cased_caseWords (scheme : Capitalization) {ws : List Word}
    (hws : ∀ w ∈ ws, w.IsRegular) : scheme.Cased (scheme.caseWords ws) := by
  cases ws with
  | nil => trivial
  | cons w ws =>
    refine ⟨scheme.firstCased_caseFirst (hws w List.mem_cons_self), ?_⟩
    intro q hq
    obtain ⟨v, hv, rfl⟩ := List.mem_map.1 hq
    exact scheme.laterCased_caseLater (hws v (List.mem_cons_of_mem w hv)).isAscii

theorem caseWords_ofText {scheme : Capitalization} {ps : List Text} (hps : ∀ p ∈ ps, p.IsAscii)
    (h : scheme.Cased ps) : scheme.caseWords (ps.map .ofText) = ps := by
  cases ps with
  | nil => rfl
  | cons p ps =>
    obtain ⟨hfirst, hlater⟩ := h
    rw [List.map_cons, caseWords, caseFirst_ofText (hps p List.mem_cons_self) hfirst, List.map_map]
    congr 1
    calc ps.map (scheme.caseLater ∘ Word.ofText) = ps.map id :=
          List.map_congr_left fun q hq =>
            caseLater_ofText (hps q (List.mem_cons_of_mem p hq)) (hlater q hq)
      _ = ps := List.map_id ps

/-- A word is cased as the first of a name or as a later one. -/
theorem mem_caseWords_or (scheme : Capitalization) {ws : List Word} {w : Word} (h : w ∈ ws) :
    scheme.caseFirst w ∈ scheme.caseWords ws ∨ scheme.caseLater w ∈ scheme.caseWords ws := by
  cases ws with
  | nil => cases h
  | cons v ws =>
    rcases List.mem_cons.1 h with rfl | h
    · exact Or.inl List.mem_cons_self
    · exact Or.inr (List.mem_cons_of_mem _ (List.mem_map_of_mem h))

/-- Casing words changes nothing but case. -/
theorem exists_of_mem_caseWords {scheme : Capitalization} {ws : List Word}
    (hws : ∀ w ∈ ws, w.text.IsAscii) {p : Text} (hp : p ∈ scheme.caseWords ws) :
    ∃ w ∈ ws, Text.lowerAscii p = Text.lowerAscii w.text := by
  cases ws with
  | nil => cases hp
  | cons w ws =>
    rcases List.mem_cons.1 hp with rfl | hp
    · exact ⟨w, List.mem_cons_self, scheme.lowerAscii_caseFirst (hws w List.mem_cons_self)⟩
    · obtain ⟨v, hv, rfl⟩ := List.mem_map.1 hp
      have hmem := List.mem_cons_of_mem w hv
      exact ⟨v, hmem, scheme.lowerAscii_caseLater (hws v hmem)⟩

end Capitalization

end Nomenclator
