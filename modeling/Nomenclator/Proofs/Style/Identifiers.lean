import Nomenclator.Proofs.Style.Fixing

/-!
# Rendered names as identifiers

A style whose affixes and separator are made of ASCII letters, digits and underscores renders names
of such characters. A character of an identifier is an underscore or belongs to a word
(`isIdentifierChar_iff`), and casing moves no digit; so a rendered name is an identifier unless the
style has no prefix and the first word starts with a digit (`Style.isIdentifier_render_iff`).

An identifier can be used as a name unless it is a reserved word. All letters of reserved words are
small, so only those styles spell one that write the words in small letters
(`Style.isReserved_render_iff`). The fixes of a name are rendered without regard to either exception:
`Style.fixes_isUsable_iff` says exactly which of them can be used.
-/

namespace Nomenclator

namespace Text

/-! ## Identifiers -/

/-- An ASCII letter, a digit or an underscore. -/
def isIdentifierChar (c : Char) : Bool := c.isAlpha || c.isDigit || c == '_'

/-- The text starts with an ASCII letter or an underscore, and all of its characters are ASCII
letters, digits and underscores. -/
def IsIdentifier (t : Text) : Prop :=
  (∃ c ∈ t.head?, c.isAlpha = true ∨ c = '_') ∧ ∀ c ∈ t, isIdentifierChar c = true

theorem toNat_lt_of_isIdentifierChar {c : Char} (h : isIdentifierChar c = true) :
    c.toNat < 128 := by
  have hupTo : ∀ {d : Char}, d.toNat < 128 → c.val ≤ d.val → c.toNat < 128 :=
    fun hd hle => Nat.lt_of_le_of_lt (UInt32.le_iff_toNat_le.1 hle) hd
  rcases Bool.or_eq_true_iff.1 h with h | hmark
  · rcases Bool.or_eq_true_iff.1 h with hletter | hdigit
    · rcases Bool.or_eq_true_iff.1 hletter with hupper | hlower
      · have hrange : 'A'.val ≤ c.val ∧ c.val ≤ 'Z'.val := of_decide_eq_true hupper
        exact hupTo (by decide) hrange.2
      · exact hupTo (by decide) (of_decide_eq_true (Bool.and_eq_true_iff.1 hlower).2)
    · exact hupTo (by decide) (of_decide_eq_true (Bool.and_eq_true_iff.1 hdigit).2)
  · rw [eq_of_beq hmark]
    decide

theorem IsIdentifier.isAscii {t : Text} (h : t.IsIdentifier) : t.IsAscii :=
  fun c hc => toNat_lt_of_isIdentifierChar (h.2 c hc)

/-- An ASCII character belongs to identifiers if it belongs to words or is an underscore. -/
theorem isIdentifierChar_iff {c : Char} (hc : c.toNat < 128) :
    isIdentifierChar c = true ↔ CharClass.of c ≠ .separator ∨ c = '_' :=
  Unicode.forall_ascii
    (P := fun c => isIdentifierChar c = true ↔ CharClass.of c ≠ .separator ∨ c = '_')
    (by decide) hc

/-- A character of identifiers starts one unless it is a digit. -/
theorem starts_iff_of_isIdentifierChar {c : Char} (h : isIdentifierChar c = true) :
    (c.isAlpha = true ∨ c = '_') ↔ CharClass.of c ≠ .digit :=
  Unicode.forall_ascii
    (P := fun c => isIdentifierChar c = true →
      ((c.isAlpha = true ∨ c = '_') ↔ CharClass.of c ≠ .digit))
    (by decide) (toNat_lt_of_isIdentifierChar h) h

theorem isIdentifier_iff {t : Text} (hne : t ≠ []) (h : ∀ c ∈ t, isIdentifierChar c = true) :
    t.IsIdentifier ↔ t.NotFirst .digit := by
  obtain ⟨c, t, rfl⟩ := List.exists_cons_of_ne_nil hne
  have hc := starts_iff_of_isIdentifierChar (h c List.mem_cons_self)
  rw [notFirst_cons, ← hc]
  constructor
  · rintro ⟨⟨d, hd, hstart⟩, -⟩
    obtain rfl : c = d := by simpa using hd
    exact hstart
  · intro hstart
    exact ⟨⟨c, rfl, hstart⟩, h⟩

end Text

/-! ## Rendered names -/

namespace Style

variable {style : Style} {ws : List Word}

/-- Affixes and separator are made of characters of identifiers, and the prefix does not start with
a digit. -/
structure FitsIdentifiers (style : Style) : Prop where
  prefix_chars : ∀ c ∈ style.requiredPrefix, Text.isIdentifierChar c = true
  separator_chars : ∀ c ∈ style.wordSeparator, Text.isIdentifierChar c = true
  suffix_chars : ∀ c ∈ style.requiredSuffix, Text.isIdentifierChar c = true
  prefix_start : ∀ c ∈ style.requiredPrefix.head?, c.isDigit = false

theorem isIdentifierChar_of_mem_render (h : style.FitsIdentifiers) (hws : ∀ w ∈ ws, w.IsRegular)
    {c : Char} (hc : c ∈ style.render ws) : Text.isIdentifierChar c = true := by
  rcases List.mem_append.1 hc with hc | hc
  · rcases List.mem_append.1 hc with hc | hc
    · exact h.prefix_chars c hc
    · rcases Text.mem_of_mem_joinWith hc with hc | ⟨piece, hpiece, hc⟩
      · exact h.separator_chars c hc
      · obtain ⟨-, hascii, hlacks⟩ := Capitalization.piece_of_mem_caseWords hws hpiece
        exact (Text.isIdentifierChar_iff (hascii c hc)).2 (Or.inl (hlacks c hc))
  · exact h.suffix_chars c hc

/-- Casing does not move digits: a body starts with one exactly if its first word does. -/
theorem notFirst_digit_renderBody (style : Style) (hne : ws ≠ []) (hws : ∀ w ∈ ws, w.IsRegular) :
    (style.renderBody ws).NotFirst .digit ↔ ∀ w ∈ ws.head?, w.text.NotFirst .digit := by
  obtain ⟨w, ws, rfl⟩ := List.exists_cons_of_ne_nil hne
  have hw := hws w List.mem_cons_self
  have hcase := style.capitalization.lowerAscii_caseFirst hw.isAscii
  obtain ⟨d, t, htext⟩ := List.exists_cons_of_ne_nil hw.ne_nil
  obtain ⟨c, s, hfirst⟩ : ∃ c s, style.capitalization.caseFirst w = c :: s := by
    apply List.exists_cons_of_ne_nil
    intro hnil
    rw [hnil, htext] at hcase
    cases hcase
  have hbody : ∃ rest, style.renderBody (w :: ws) = c :: rest := by
    rw [renderBody, Capitalization.caseWords]
    cases hlater : ws.map style.capitalization.caseLater with
    | nil => exact ⟨s, by rw [hfirst]; rfl⟩
    | cons p ps =>
      rw [Text.joinWith_cons (by simp), hfirst]
      exact ⟨_, rfl⟩
  obtain ⟨rest, hbody⟩ := hbody
  -- The first characters of the word and of the body differ in case only.
  have hascii := hw.isAscii
  rw [htext] at hascii hcase
  rw [hfirst, Text.lowerAscii_cons, Text.lowerAscii_cons, List.cons.injEq] at hcase
  have hclass := Text.forall_class_iff (P := fun cls => cls ≠ .digit) (by decide)
    (s := [c]) (t := [d]) (by simp [hcase.1])
    (Text.isAscii_cons.2 ⟨(Text.isAscii_cons.1 hascii).1, Text.isAscii_nil⟩)
  rw [hbody, Text.notFirst_cons]
  simpa [htext, Text.notFirst_cons] using hclass

/-- A rendered name is an identifier, unless the style has no prefix and the first word starts with
a digit. -/
theorem isIdentifier_render_iff (h : style.FitsIdentifiers) (hne : ws ≠ [])
    (hws : ∀ w ∈ ws, w.IsRegular) :
    (style.render ws).IsIdentifier ↔
      (style.requiredPrefix = [] → ∀ w ∈ ws.head?, w.text.NotFirst .digit) := by
  obtain ⟨c, t, hbody, -⟩ := renderBody_eq_cons style hne hws
  have hrender : style.render ws ≠ [] := by simp [render, hbody]
  rw [Text.isIdentifier_iff hrender fun c hc => isIdentifierChar_of_mem_render h hws hc,
    ← notFirst_digit_renderBody style hne hws]
  cases hmark : style.requiredPrefix with
  | nil =>
    rw [render, hmark, hbody, List.nil_append, List.cons_append, Text.notFirst_cons,
      Text.notFirst_cons]
    simp
  | cons a rest =>
    have ha : Text.isIdentifierChar a = true := h.prefix_chars a (by simp [hmark])
    have hdigit : a.isDigit = false := h.prefix_start a (by simp [hmark])
    refine iff_of_true ?_ fun hnil => by cases hnil
    rw [render, hmark, List.append_assoc, List.cons_append, Text.notFirst_cons,
      ← Text.starts_iff_of_isIdentifierChar ha]
    simpa [Text.isIdentifierChar, hdigit] using ha

theorem head?_render_ne_of_fitsIdentifiers (h : style.FitsIdentifiers)
    (hws : ∀ w ∈ ws, w.IsRegular) : (style.render ws).head? ≠ some Reserved.verbatimMark := by
  intro hmark
  have hchar := isIdentifierChar_of_mem_render h hws (List.mem_of_head? hmark)
  exact absurd hchar (by decide)

/-- A name made of characters of identifiers has no verbatim mark. -/
theorem unescape_escape_render (h : style.FitsIdentifiers) (hws : ∀ w ∈ ws, w.IsRegular) :
    Reserved.unescape (Reserved.escape (style.render ws)) = style.render ws :=
  Reserved.unescape_escape (head?_render_ne_of_fitsIdentifiers h hws)

end Style

/-! ## Reserved words -/

theorem class_of_isLower {c : Char} (h : c.isLower = true) : CharClass.of c = .lower := by
  have halpha : c.isAlpha = true := Bool.or_eq_true_iff.2 (Or.inr h)
  have hchar : Text.isIdentifierChar c = true := by simp [Text.isIdentifierChar, halpha]
  exact Unicode.forall_ascii (P := fun c => c.isLower = true → CharClass.of c = .lower)
    (by decide) (Text.toNat_lt_of_isIdentifierChar hchar) h

/-- All letters of a reserved word are small. -/
theorem Reserved.class_of_isReserved {t : Text} (h : isReserved t = true) :
    ∀ c ∈ t, CharClass.of c = .lower := by
  have hwords : ∀ w ∈ words, w.toList.all Char.isLower = true := by decide
  obtain ⟨w, hw, heq⟩ := List.any_eq_true.1 h
  rw [← eq_of_beq heq]
  exact fun c hc => class_of_isLower (List.all_eq_true.1 (hwords w hw) c hc)

namespace Capitalization

variable {scheme : Capitalization} {ws : List Word}

/-- The scheme writes the words in small letters: all of them, or the only one. -/
def WritesSmall (scheme : Capitalization) (ws : List Word) : Prop :=
  scheme = .allLower ∨ scheme = .camelCase ∧ ws.length = 1

theorem decapitalize_eq_lowercase {t : Text} (ht : t.IsAscii) (h : Text.Lacks .upper t.tail) :
    decapitalize t = Unicode.lowercase t := by
  cases t with
  | nil => rfl
  | cons c t =>
    obtain ⟨hc, ht'⟩ := Text.isAscii_cons.1 ht
    rw [decapitalize_cons hc, Unicode.lowercase_ascii ht, List.map_cons,
      ← Unicode.lowercase_ascii ht', Unicode.lowercase_eq_self ht' h]

theorem WritesSmall.caseWords_eq (h : scheme.WritesSmall ws) (hws : ∀ w ∈ ws, w.IsRegular) :
    scheme.caseWords ws = allLower.caseWords ws := by
  obtain rfl | ⟨rfl, hlength⟩ := h
  · rfl
  · obtain ⟨w, rfl⟩ := List.length_eq_one_iff.1 hlength
    have hw := hws w List.mem_cons_self
    have hfirst : camelCase.caseFirst w = allLower.caseFirst w := by
      simp only [caseFirst]
      split
      · rfl
      · rename_i hacronym
        exact decapitalize_eq_lowercase hw.isAscii (hw.marked (by simpa using hacronym))
    rw [caseWords, caseWords, hfirst]
    rfl

/-- A scheme that writes other letters does so at the start of one of the first two words. -/
theorem exists_notFirst_of_not_writesSmall (h : ¬ scheme.WritesSmall ws) (hne : ws ≠ [])
    (hws : ∀ w ∈ ws, w.IsRegular) : ∃ p ∈ scheme.caseWords ws, p.NotFirst .lower := by
  obtain ⟨w, ws, rfl⟩ := List.exists_cons_of_ne_nil hne
  have hfirst := scheme.firstCased_caseFirst (hws w List.mem_cons_self)
  have hmem : scheme.caseFirst w ∈ scheme.caseWords (w :: ws) := List.mem_cons_self
  cases scheme with
  | pascalCase => exact ⟨_, hmem, hfirst⟩
  | firstWordUpper => exact ⟨_, hmem, hfirst.1⟩
  | allUpper => exact ⟨_, hmem, Text.Lacks.notFirst hfirst⟩
  | allLower => exact absurd (Or.inl rfl) h
  | camelCase =>
    cases ws with
    | nil => exact absurd (Or.inr ⟨rfl, rfl⟩) h
    | cons v ws =>
      have hv := (hws v (by simp)).isAscii
      exact ⟨_, List.mem_cons_of_mem _ List.mem_cons_self, camelCase.laterCased_caseLater hv⟩

end Capitalization

namespace Style

variable {style : Style} {ws : List Word}

/-- The style writes the words in small letters, and so written they make a reserved word, together
with the affixes. -/
def SpellsReserved (style : Style) (ws : List Word) : Prop :=
  style.capitalization.WritesSmall ws ∧
    Reserved.isReserved ({ style with capitalization := .allLower }.render ws) = true

theorem isReserved_render_iff (hne : ws ≠ []) (hws : ∀ w ∈ ws, w.IsRegular) :
    Reserved.isReserved (style.render ws) = true ↔ style.SpellsReserved ws := by
  by_cases hsmall : style.capitalization.WritesSmall ws
  · have hrender : style.render ws = { style with capitalization := .allLower }.render ws := by
      rw [render, renderBody, hsmall.caseWords_eq hws]
      rfl
    rw [hrender, SpellsReserved, and_iff_right hsmall]
  · refine iff_of_false (fun hreserved => ?_) fun h => hsmall h.1
    obtain ⟨p, hp, hfirst⟩ :=
      Capitalization.exists_notFirst_of_not_writesSmall hsmall hne hws
    obtain ⟨c, t, rfl⟩ := List.exists_cons_of_ne_nil (Capitalization.piece_of_mem_caseWords hws hp).1
    have hbody : c ∈ style.renderBody ws := (Text.infix_joinWith hp).subset List.mem_cons_self
    have hmem : c ∈ style.render ws := by simp [render, hbody]
    exact Text.notFirst_cons.1 hfirst (Reserved.class_of_isReserved hreserved c hmem)

end Style

/-! ## Fixes that can be used -/

/-- The text can be used as a name: it starts with a letter or an underscore, behind one verbatim
mark or none, and it is no reserved word. -/
def Text.IsUsable (t : Text) : Prop :=
  (∃ c ∈ (Reserved.unescape t).head?, c.isAlpha = true ∨ c = '_') ∧ Reserved.isReserved t = false

namespace Style

variable {style : Style} {ws : List Word}

theorem isUsable_render_iff (h : style.FitsIdentifiers) (hne : ws ≠ [])
    (hws : ∀ w ∈ ws, w.IsRegular) :
    (style.render ws).IsUsable ↔
      (style.requiredPrefix = [] → ∀ w ∈ ws.head?, w.text.NotFirst .digit) ∧
        ¬ style.SpellsReserved ws := by
  have hunescape := Reserved.unescape_eq_self (head?_render_ne_of_fitsIdentifiers h hws)
  rw [← isReserved_render_iff hne hws, ← isIdentifier_render_iff h hne hws, Text.IsUsable,
    hunescape, Bool.not_eq_true]
  refine and_congr_left fun _ => ⟨fun hstart => ⟨hstart, ?_⟩, fun hname => hname.1⟩
  exact fun c hc => isIdentifierChar_of_mem_render h hws hc

/-- A fix of an identifier renders all words of it, or those behind a marker. It holds letters, digits
and underscores only. It can be used as a name, unless the style has no prefix and the first of the
words starts with a digit, or the style writes the words in small letters and they make a reserved
word. -/
theorem fixes_isUsable_iff (h : style.FitsIdentifiers) {name f : Text}
    (hname : (Reserved.unescape name).IsIdentifier) (hf : f ∈ style.fixes name) :
    ∃ ws, (ws = Word.breakWords (style.core name) ∨ startsWithMarker (style.core name) = true ∧
        ws = (Word.breakWords (style.core name)).tail) ∧
      f = style.render ws ∧ (∀ c ∈ f, Text.isIdentifierChar c = true) ∧
      (f.IsUsable ↔ (style.requiredPrefix = [] → ∀ w ∈ ws.head?, w.text.NotFirst .digit) ∧
        ¬ style.SpellsReserved ws) := by
  obtain ⟨ws, hne, rfl, hwords⟩ := words_of_mem_fixes hf
  have hcore : (style.core name).IsAscii :=
    fun c hc => hname.isAscii c (mem_unescape_of_mem_core hc)
  have hmem : ∀ w ∈ ws, w ∈ Word.breakWords (style.core name) := by
    obtain rfl | ⟨-, rfl⟩ := hwords
    · exact fun w hw => hw
    · exact fun w hw => List.mem_of_mem_tail hw
  have hws : ∀ w ∈ ws, w.IsRegular :=
    fun w hw => (Word.isOrdinary_of_mem_breakWords hcore (hmem w hw)).isRegular
  exact ⟨ws, hwords, rfl, fun c hc => isIdentifierChar_of_mem_render h hws hc,
    isUsable_render_iff h hne hws⟩

theorem fitsIdentifiers_camelStyle : camelStyle.FitsIdentifiers := by
  refine ⟨?_, ?_, ?_, ?_⟩ <;> simp [camelStyle]

/-- The name `m_count` is fixed to `count`. -/
theorem fixes_isUsable_iff_count :
    camelStyle.FitsIdentifiers ∧ (Reserved.unescape "m_count".toList).IsIdentifier ∧
      "count".toList ∈ camelStyle.fixes "m_count".toList ∧
      ∃ ws, (ws = Word.breakWords (camelStyle.core "m_count".toList) ∨
          startsWithMarker (camelStyle.core "m_count".toList) = true ∧
            ws = (Word.breakWords (camelStyle.core "m_count".toList)).tail) ∧
        "count".toList = camelStyle.render ws ∧
        (∀ c ∈ "count".toList, Text.isIdentifierChar c = true) ∧
        (Text.IsUsable "count".toList ↔
          (camelStyle.requiredPrefix = [] → ∀ w ∈ ws.head?, w.text.NotFirst .digit) ∧
            ¬ camelStyle.SpellsReserved ws) := by
  have hname : (Reserved.unescape "m_count".toList).IsIdentifier :=
    ⟨⟨'m', rfl, Or.inl (by decide)⟩, List.all_eq_true.1 (by decide)⟩
  have hfix : "count".toList ∈ camelStyle.fixes "m_count".toList := by decide +kernel
  exact ⟨fitsIdentifiers_camelStyle, hname, hfix,
    fixes_isUsable_iff fitsIdentifiers_camelStyle hname hfix⟩

/-- In camel case the identifier `Class` is fixed to a reserved word, and `_3d` to a name that starts
with a digit. -/
theorem fixes_not_isUsable :
    camelStyle.FitsIdentifiers ∧
      ((Reserved.unescape "Class".toList).IsIdentifier ∧
        "class".toList ∈ camelStyle.fixes "Class".toList ∧ ¬ Text.IsUsable "class".toList) ∧
      (Reserved.unescape "_3d".toList).IsIdentifier ∧
        "3D".toList ∈ camelStyle.fixes "_3d".toList ∧ ¬ Text.IsUsable "3D".toList := by
  refine ⟨fitsIdentifiers_camelStyle, ⟨?_, by decide +kernel, ?_⟩, ?_, by decide +kernel, ?_⟩
  · exact ⟨⟨'C', rfl, Or.inl (by decide)⟩, List.all_eq_true.1 (by decide)⟩
  · rintro ⟨-, hreserved⟩
    exact absurd hreserved (by decide)
  · exact ⟨⟨'_', rfl, Or.inr rfl⟩, List.all_eq_true.1 (by decide)⟩
  · rintro ⟨⟨c, hc, hstart⟩, -⟩
    obtain rfl : c = '3' := by simpa [Reserved.unescape, Reserved.verbatimMark] using hc.symm
    exact absurd hstart (by decide)

end Style

end Nomenclator
