import Nomenclator.Proofs.Style.Separated

/-!
# What fixing keeps

Fixing a name changes the case of its letters, the separators and the affixes, and nothing else: between
the affixes of a fix stand the letters and numerals of the name, in order, none lost and none added. The
first fix has all of them and the second, if there is one, all but the marker (`fixes_letters`).

Two facts make this up. The words of a name hold its letters and numerals in order
(`Word.joined_breakWords`, from the word breaker), and casing the words and joining them changes nothing
but case and separators (`lowercase_without_renderBody`).
-/

namespace Nomenclator

/-! ## Letters and separators of a text -/

namespace Text

/-- The letters and numerals of a text, in order. -/
def letters (t : Text) : Text := t.filter fun c => Unicode.isAlphabetic c || Unicode.isNumeric c

/-- The text without the occurrences of a separator, taken from the left. An empty separator does not
occur. -/
def without (sep t : Text) : Text := if sep = [] then t else (splitOnText sep t).flatten

variable {sep t : Text} {ps : List Text}

theorem letters_eq_joined_breakWords (t : Text) : letters t = Word.joined (Word.breakWords t) := by
  rw [Word.joined_breakWords]
  apply List.filter_congr
  intro c _
  have hclass := CharClass.of_eq_separator_iff (c := c)
  rw [Word.isWordChar, Bool.eq_iff_iff, bne_iff_ne, Ne, hclass]
  cases Unicode.isAlphabetic c <;> simp

/-- Of pieces without separators, joined with a separator, the pieces remain. -/
theorem without_joinWith (hsep : ∀ c ∈ sep, CharClass.of c = .separator)
    (hps : ∀ p ∈ ps, p.Lacks .separator) : without sep (joinWith sep ps) = ps.flatten := by
  unfold without
  split
  · rename_i hnil
    rw [hnil, joinWith_nil]
  · rename_i hne
    obtain ⟨a, rest, rfl⟩ := List.exists_cons_of_ne_nil hne
    by_cases hnil : ps = []
    · subst hnil
      rfl
    · have hpieces : ∀ p ∈ ps, a ∉ p :=
        fun p hp hmem => hps p hp a hmem (hsep a List.mem_cons_self)
      rw [splitOnText_joinWith hnil hpieces]

end Text

/-! ## Casing and joining words -/

/-- Casing words changes nothing but case. -/
theorem Capitalization.map_lowerAscii_caseWords (scheme : Capitalization) {ws : List Word}
    (hws : ∀ w ∈ ws, w.text.IsAscii) :
    (scheme.caseWords ws).map Text.lowerAscii = ws.map fun w => Text.lowerAscii w.text := by
  cases ws with
  | nil => rfl
  | cons w ws =>
    rw [caseWords, List.map_cons, List.map_cons, List.map_map,
      scheme.lowerAscii_caseFirst (hws w List.mem_cons_self)]
    congr 1
    apply List.map_congr_left
    intro v hv
    exact scheme.lowerAscii_caseLater (hws v (List.mem_cons_of_mem w hv))

theorem Word.isAscii_joined {ws : List Word} (hws : ∀ w ∈ ws, w.text.IsAscii) :
    Text.IsAscii (joined ws) := by
  intro c hc
  obtain ⟨w, hw, hcw⟩ := List.mem_flatMap.1 hc
  exact hws w hw c hcw

namespace Style

variable {style : Style} {name core : Text} {w : Word} {ws : List Word}

/-- Between the affixes of a rendering stand the words, but for case and separators. -/
theorem lowercase_without_renderBody (hsep : ∀ c ∈ style.wordSeparator, CharClass.of c = .separator)
    (hws : ∀ w ∈ ws, w.IsRegular) :
    Unicode.lowercase (Text.without style.wordSeparator (style.renderBody ws)) =
      Unicode.lowercase (Word.joined ws) := by
  have hascii : ∀ w ∈ ws, w.text.IsAscii := fun w hw => (hws w hw).isAscii
  have hbody : Text.without style.wordSeparator (style.renderBody ws) =
      (style.capitalization.caseWords ws).flatten :=
    Text.without_joinWith hsep fun p hp => (Capitalization.piece_of_mem_caseWords hws hp).2.2
  have hpieces : Text.IsAscii (style.capitalization.caseWords ws).flatten := by
    intro c hc
    obtain ⟨p, hp, hcp⟩ := List.mem_flatten.1 hc
    exact (Capitalization.piece_of_mem_caseWords hws hp).2.1 c hcp
  rw [hbody, Unicode.lowercase_ascii hpieces, Unicode.lowercase_ascii (Word.isAscii_joined hascii)]
  calc Text.lowerAscii (style.capitalization.caseWords ws).flatten
      = ((style.capitalization.caseWords ws).map Text.lowerAscii).flatten := List.map_flatten
    _ = (ws.map fun w => Text.lowerAscii w.text).flatten := by
        rw [style.capitalization.map_lowerAscii_caseWords hascii]
    _ = Text.lowerAscii (Word.joined ws) := by
        rw [Word.joined, List.flatMap_def, Text.lowerAscii, List.map_flatten, List.map_map]
        rfl

/-- A rendering without the first word is another name: it has fewer letters and numerals. -/
theorem render_tail_ne (hsep : ∀ c ∈ style.wordSeparator, CharClass.of c = .separator)
    (hws : ∀ v ∈ w :: ws, v.IsRegular) : style.render ws ≠ style.render (w :: ws) := by
  intro heq
  have htail : ∀ v ∈ ws, v.IsRegular := fun v hv => hws v (List.mem_cons_of_mem w hv)
  have hbody : style.renderBody ws = style.renderBody (w :: ws) :=
    List.append_cancel_left (List.append_cancel_right heq)
  have hletters : Unicode.lowercase (Word.joined ws) = Unicode.lowercase (Word.joined (w :: ws)) := by
    rw [← lowercase_without_renderBody hsep htail, hbody, lowercase_without_renderBody hsep hws]
  rw [Unicode.lowercase_ascii (Word.isAscii_joined fun v hv => (htail v hv).isAscii),
    Unicode.lowercase_ascii (Word.isAscii_joined fun v hv => (hws v hv).isAscii)] at hletters
  have hlen := congrArg List.length hletters
  have hpos := List.length_pos_iff.2 (hws w List.mem_cons_self).ne_nil
  rw [List.length_map, List.length_map, Word.joined, Word.joined, List.flatMap_cons,
    List.length_append] at hlen
  omega

/-! ## The words that the fixes keep -/

/-- The words that the fixes of a name with this core render: all of them, and those behind a marker. -/
def keptWords (core : Text) : List (List Word) :=
  match Word.breakWords core with
  | [] => []
  | w :: ws => if startsWithMarker core = true ∧ ws ≠ [] then [w :: ws, ws] else [w :: ws]

/-- The letters and numerals that the fixes of a name with this core keep: all of them, and those behind a
marker. -/
def keptLetters (core : Text) : List Text :=
  if Text.letters core = [] then []
  else if startsWithMarker core = true ∧ (Text.letters core).tail ≠ [] then
    [Text.letters core, (Text.letters core).tail]
  else [Text.letters core]

/-- A marker is the first word, and a single letter. -/
theorem breakWords_of_startsWithMarker (h : startsWithMarker core = true) :
    ∃ c rest, Word.breakWords core = .ofText [c] :: Word.breakWords rest := by
  match core, h with
  | c :: d :: t, h =>
    simp only [startsWithMarker, Bool.and_eq_true, Bool.not_eq_true', Bool.or_eq_false_iff] at h
    obtain ⟨hc, hd⟩ := h
    have hletter : CharClass.of c ≠ .separator := by
      intro hsep
      rw [(CharClass.of_eq_separator_iff.1 hsep).1] at hc
      cases hc
    have hword : Word.IsWord [c] := ⟨hletter, Or.inl (by simp)⟩
    have hapart := Word.endsBefore_separator (t := t) hword (CharClass.of_eq_separator_iff.2 hd)
    exact ⟨c, d :: t, Word.breakWords_append hword hapart⟩

theorem joined_eq_nil_iff (hws : ∀ v ∈ ws, v.text ≠ []) : Word.joined ws = [] ↔ ws = [] := by
  cases ws with
  | nil => exact iff_of_true rfl rfl
  | cons w ws => simp [Word.joined, hws w List.mem_cons_self]

/-- The letters that the fixes keep are those of the words that they keep. -/
theorem map_joined_keptWords (core : Text) : (keptWords core).map Word.joined = keptLetters core := by
  have hne : ∀ v ∈ Word.breakWords core, v.text ≠ [] :=
    fun v hv => (Word.isWord_of_mem_breakWords hv).1.ne_nil
  have hletters := Text.letters_eq_joined_breakWords core
  cases hwords : Word.breakWords core with
  | nil => simp [keptWords, keptLetters, hletters, hwords, Word.joined]
  | cons w ws =>
    rw [hwords] at hne
    simp only [keptWords, keptLetters, hletters, hwords]
    have hws : ∀ v ∈ ws, v.text ≠ [] := fun v hv => hne v (List.mem_cons_of_mem w hv)
    rw [if_neg ((joined_eq_nil_iff hne).not.2 (List.cons_ne_nil w ws))]
    by_cases hmarker : startsWithMarker core = true
    · obtain ⟨c, rest, hfirst⟩ := breakWords_of_startsWithMarker hmarker
      obtain ⟨rfl, -⟩ := List.cons_eq_cons.1 (hwords.symm.trans hfirst)
      have htail : (Word.joined (.ofText [c] :: ws)).tail = Word.joined ws := rfl
      rw [htail]
      by_cases hnil : ws = []
      · subst hnil
        simp [Word.joined]
      · have hjoined := (joined_eq_nil_iff hws).not.2 hnil
        rw [if_pos ⟨hmarker, hnil⟩, if_pos ⟨hmarker, hjoined⟩, List.map_cons, List.map_cons,
          List.map_nil]
    · simp [hmarker]

theorem isRegular_of_mem_keptWords (hcore : core.IsAscii) (h : ws ∈ keptWords core) :
    ∀ v ∈ ws, v.IsRegular := by
  have hall : ∀ v ∈ Word.breakWords core, v.IsRegular :=
    fun v hv => (Word.isOrdinary_of_mem_breakWords hcore hv).isRegular
  unfold keptWords at h
  split at h
  · cases h
  · rename_i w vs hwords
    rw [hwords] at hall
    split at h
    · rcases List.mem_cons.1 h with rfl | h
      · exact hall
      · rw [List.mem_singleton.1 h]
        exact fun v hv => hall v (List.mem_cons_of_mem w hv)
    · rw [List.mem_singleton.1 h]
      exact hall

/-- The fixes of an ASCII name are the renderings of the kept words, no two alike. -/
theorem fixes_eq_map_render (hsep : ∀ c ∈ style.wordSeparator, CharClass.of c = .separator)
    (hcore : (style.core name).IsAscii) :
    style.fixes name = (keptWords (style.core name)).map style.render ∧
      (style.fixes name).Nodup := by
  have hall : ∀ v ∈ Word.breakWords (style.core name), v.IsRegular :=
    fun v hv => (Word.isOrdinary_of_mem_breakWords hcore hv).isRegular
  cases hwords : Word.breakWords (style.core name) with
  | nil => simp [fixes, keptWords, hwords]
  | cons w ws =>
    cases ws with
    | nil => simp [fixes, keptWords, hwords]
    | cons v ws =>
      have hne : style.render (v :: ws) ≠ style.render (w :: v :: ws) :=
        render_tail_ne hsep (hwords ▸ hall)
      by_cases hmarker : startsWithMarker (style.core name) = true
      · simp [fixes, keptWords, hwords, hmarker, hne, hne.symm]
      · simp [fixes, keptWords, hwords, hmarker]

/-! ## The letters of the fixes -/

/-- The core of a name, step by step: without one leading mark, then without the prefix if it is there,
then without the suffix if it is there. -/
theorem core_eq (style : Style) (name : Text) :
    let bare := if name.head? = some '@' then name.tail else name
    let rest :=
      if style.requiredPrefix <+: bare then bare.drop style.requiredPrefix.length else bare
    style.core name =
      if style.requiredSuffix <:+ rest then rest.take (rest.length - style.requiredSuffix.length)
      else rest := by
  intro bare rest
  have hbare : Reserved.unescape name = bare := by
    cases name with
    | nil => rfl
    | cons c name =>
      by_cases hc : c = '@'
      · subst hc
        rfl
      · simp [bare, Reserved.unescape, Reserved.verbatimMark, hc]
  rw [core, hbare, Text.getD_dropPrefix?, Text.getD_dropSuffix?]

/-- The core of a name is the name without one leading mark, then without the prefix if it is there, then
without the suffix if it is there. Every fix of an ASCII name is a body between the affixes of the style,
and the bodies, without the separator and in lower case, are the letters and numerals of the core: all of
them in the first fix, and those behind the marker in the second. No two fixes are alike. -/
theorem fixes_letters
    (hsep : ∀ c ∈ style.wordSeparator,
      Unicode.isAlphabetic c = false ∧ Unicode.isNumeric c = false) (hname : name.IsAscii) :
    let bare := if name.head? = some '@' then name.tail else name
    let rest :=
      if style.requiredPrefix <+: bare then bare.drop style.requiredPrefix.length else bare
    let core :=
      if style.requiredSuffix <:+ rest then rest.take (rest.length - style.requiredSuffix.length)
      else rest
    style.core name = core ∧
    ∃ bodies : List Text,
      style.fixes name =
        bodies.map (fun body => style.requiredPrefix ++ body ++ style.requiredSuffix) ∧
      (style.fixes name).Nodup ∧
      bodies.map (fun body => Unicode.lowercase (Text.without style.wordSeparator body)) =
        (keptLetters core).map Unicode.lowercase := by
  intro bare rest core
  have hcut : style.core name = core := core_eq style name
  refine ⟨hcut, ?_⟩
  rw [← hcut]
  have hclass : ∀ c ∈ style.wordSeparator, CharClass.of c = .separator :=
    fun c hc => CharClass.of_eq_separator_iff.2 (hsep c hc)
  have hcore : (style.core name).IsAscii := fun c hc => hname c (mem_of_mem_core hc)
  obtain ⟨hfixes, hnodup⟩ := fixes_eq_map_render hclass hcore
  refine ⟨(keptWords (style.core name)).map style.renderBody, ?_, hnodup, ?_⟩
  · rw [hfixes, List.map_map]
    rfl
  · rw [← map_joined_keptWords, List.map_map, List.map_map]
    apply List.map_congr_left
    intro ws hws
    exact lowercase_without_renderBody hclass (isRegular_of_mem_keptWords hcore hws)

/-- The two fixes of `@Km_ioStream2Z` where names start with `K` and end with `Z`: the mark and both
affixes are taken off, the marker `m` is in the first fix only, and both affixes are put on again. -/
theorem fixes_letters_ioStream :
    let style := { underscoredStyle with requiredPrefix := "K".toList, requiredSuffix := "Z".toList }
    let name : Text := "@Km_ioStream2Z".toList
    let core : Text := "m_ioStream2".toList
    (∀ c ∈ style.wordSeparator, Unicode.isAlphabetic c = false ∧ Unicode.isNumeric c = false) ∧
      name.IsAscii ∧
      style.core name = core ∧
      style.fixes name = ["KM_Io_Stream_2Z".toList, "KIo_Stream_2Z".toList] ∧
      keptLetters core = ["mioStream2".toList, "ioStream2".toList] ∧
      ∃ bodies : List Text,
        style.fixes name =
          bodies.map (fun body => style.requiredPrefix ++ body ++ style.requiredSuffix) ∧
        (style.fixes name).Nodup ∧
        bodies.map (fun body => Unicode.lowercase (Text.without style.wordSeparator body)) =
          (keptLetters core).map Unicode.lowercase := by
  intro style name core
  have hascii : name.IsAscii := by simp [name, Text.IsAscii]
  have hcore : style.core name = core := by decide +kernel
  obtain ⟨hcut, hbodies⟩ := @fixes_letters style name separator_underscoredStyle hascii
  rw [← hcut, hcore] at hbodies
  exact ⟨separator_underscoredStyle, hascii, hcore, by decide +kernel, by decide +kernel, hbodies⟩

end Style

end Nomenclator
