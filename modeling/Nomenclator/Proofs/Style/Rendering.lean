import Mathlib.Data.List.Chain
import Nomenclator.Proofs.Style.Casing
import Nomenclator.Proofs.Text.Splitting
import Nomenclator.Proofs.Unicode.Classes
import Nomenclator.Style.Compliance

/-!
# Texts that a scheme leaves as they are

A style without a separator glues cased words together, and the word breaker need not find the words
that were glued: `XY` may have been `x` and `y`. So what a scheme leaves as it is, is described here
without words, by conditions on neighbouring characters (`Capitalization.Fits`):

* `fits_renderBody`: regular words in a row fit the scheme, if no small letter came to stand behind
  a numeral (`Text.Attached`);
* `renderBody_breakWords_eq_self`: what fits is rendered as it is from the words that the breaker
  finds in it.
-/

namespace Nomenclator

/-- No small letter stands directly behind a numeral. The breaker starts a word with such a
letter. -/
def Text.Attached (t : Text) : Prop :=
  t.IsChain fun a b => ¬ (CharClass.of a = .digit ∧ CharClass.of b = .lower)

namespace Capitalization

/-- The scheme tells words apart by capitals. -/
def marksWords : Capitalization → Bool
  | .pascalCase | .camelCase => true
  | .firstWordUpper | .allUpper | .allLower => false

/-- The scheme leaves a text without separators as it is. -/
def Fits (scheme : Capitalization) (t : Text) : Prop :=
  (match scheme with
    | .pascalCase => t.NotFirst .lower
    | .camelCase => t.NotFirst .upper
    | .firstWordUpper => t.NotFirst .lower ∧ Text.Lacks .upper t.tail
    | .allUpper => t.Lacks .lower
    | .allLower => t.Lacks .upper) ∧
    (scheme.marksWords = true → t.Attached)

end Capitalization

/-! ## Joined pieces -/

namespace Text

theorem notFirst_append {cls : CharClass} {s t : Text} (hs : s.NotFirst cls)
    (ht : t.NotFirst cls) : NotFirst cls (s ++ t) := by
  cases s with
  | nil => exact ht
  | cons c s => exact notFirst_cons.2 (notFirst_cons.1 hs)

theorem notFirst_append_of_ne_nil {cls : CharClass} {s : Text} (hne : s ≠ [])
    (hs : s.NotFirst cls) (t : Text) : NotFirst cls (s ++ t) := by
  obtain ⟨c, s, rfl⟩ := List.exists_cons_of_ne_nil hne
  exact notFirst_cons.2 (notFirst_cons.1 hs)

theorem notFirst_flatten {cls : CharClass} {ps : List Text} (h : ∀ p ∈ ps, p.NotFirst cls) :
    NotFirst cls ps.flatten := by
  induction ps with
  | nil => intro c hc; cases hc
  | cons p ps ih =>
    rw [List.flatten_cons]
    exact notFirst_append (h p List.mem_cons_self)
      (ih fun q hq => h q (List.mem_cons_of_mem p hq))

theorem lacks_flatten {cls : CharClass} {ps : List Text} :
    Lacks cls ps.flatten ↔ ∀ p ∈ ps, p.Lacks cls := by
  simp only [Lacks, List.mem_flatten]
  constructor
  · exact fun h p hp c hc => h c ⟨p, hp, hc⟩
  · rintro h c ⟨p, hp, hc⟩
    exact h p hp c hc

theorem Attached.left {s t : Text} (h : Attached (s ++ t)) : Attached s :=
  List.IsChain.left_of_append h

theorem Attached.right {s t : Text} (h : Attached (s ++ t)) : Attached t :=
  List.IsChain.right_of_append h

/-- A text that does not start with a small letter can be attached. -/
theorem attached_append {s t : Text} (hs : s.Attached) (ht : t.Attached)
    (hfirst : t.NotFirst .lower) : Attached (s ++ t) :=
  List.isChain_append.2 ⟨hs, ht, fun _ _ b hb h => hfirst b hb h.2⟩

theorem attached_flatten {ps : List Text} (h : ∀ p ∈ ps, p.Attached)
    (hfirst : ∀ p ∈ ps.tail, p.NotFirst .lower) : Attached ps.flatten := by
  induction ps with
  | nil => exact List.isChain_nil
  | cons p ps ih =>
    have htail : Attached ps.flatten :=
      ih (fun q hq => h q (List.mem_cons_of_mem p hq))
        fun q hq => hfirst q (List.mem_of_mem_tail hq)
    exact attached_append (h p List.mem_cons_self) htail (notFirst_flatten hfirst)

theorem attached_of_lacks_digit {t : Text} (h : t.Lacks .digit) : Attached t := by
  induction t with
  | nil => exact List.isChain_nil
  | cons c t ih =>
    obtain ⟨hc, ht⟩ := lacks_cons.1 h
    cases t with
    | nil => exact List.isChain_singleton c
    | cons d t => exact List.isChain_cons_cons.2 ⟨fun hcd => hc hcd.1, ih ht⟩

theorem attached_of_lacks_lower {t : Text} (h : t.Lacks .lower) : Attached t := by
  induction t with
  | nil => exact List.isChain_nil
  | cons c t ih =>
    have ht := (lacks_cons.1 h).2
    cases t with
    | nil => exact List.isChain_singleton c
    | cons d t =>
      exact List.isChain_cons_cons.2 ⟨fun hcd => (lacks_cons.1 ht).1 hcd.2, ih ht⟩

/-- Letters only, or numerals only. -/
def Uniform (t : Text) : Prop := t.Lacks .digit ∨ ∀ c ∈ t, CharClass.of c = .digit

theorem Uniform.attached {t : Text} (h : t.Uniform) : t.Attached := by
  rcases h with hletters | hdigits
  · exact attached_of_lacks_digit hletters
  · refine attached_of_lacks_lower fun c hc => ?_
    rw [hdigits c hc]
    decide

/-- Being uniform does not depend on case. -/
theorem uniform_iff {s t : Text} (hcase : lowerAscii s = lowerAscii t) (ht : t.IsAscii) :
    s.Uniform ↔ t.Uniform :=
  or_congr (forall_class_iff (P := fun cls => cls ≠ .digit) (by decide) hcase ht)
    (forall_class_iff (P := fun cls => cls = .digit) (by decide) hcase ht)

end Text

theorem Word.IsWord.uniform {w : Text} (h : IsWord w) : w.Uniform := by
  cases w with
  | nil => exact h.elim
  | cons c t =>
    obtain ⟨hc, hsame | ⟨hupper, hlower⟩⟩ := h
    · by_cases hdigit : CharClass.of c = .digit
      · right
        intro d hd
        rcases List.mem_cons.1 hd with rfl | hd
        · exact hdigit
        · rw [hsame d hd, hdigit]
      · left
        rw [Text.lacks_cons]
        refine ⟨hdigit, fun d hd => ?_⟩
        rwa [hsame d hd]
    · left
      rw [Text.lacks_cons]
      refine ⟨by simp [hupper], fun d hd => ?_⟩
      rw [hlower d hd]
      decide

/-! ## A scheme and a text without separators -/

namespace Capitalization

/-- Cased pieces in a row fit the scheme, if small letters are attached. -/
theorem fits_flatten {scheme : Capitalization} {p : Text} {ps : List Text} (hp : p ≠ [])
    (h : scheme.Cased (p :: ps))
    (hattached : scheme.marksWords = true → Text.Attached (p :: ps).flatten) :
    scheme.Fits (p :: ps).flatten := by
  refine ⟨?_, hattached⟩
  obtain ⟨hfirst, hlater⟩ := h
  rw [List.flatten_cons]
  cases scheme with
  | pascalCase => exact Text.notFirst_append_of_ne_nil hp hfirst _
  | camelCase => exact Text.notFirst_append_of_ne_nil hp (Text.Lacks.notFirst hfirst) _
  | firstWordUpper =>
    refine ⟨Text.notFirst_append_of_ne_nil hp hfirst.1 _, ?_⟩
    rw [List.tail_append_of_ne_nil hp]
    exact Text.lacks_append.2 ⟨hfirst.2, Text.lacks_flatten.2 hlater⟩
  | allUpper | allLower => exact Text.lacks_append.2 ⟨hfirst, Text.lacks_flatten.2 hlater⟩

end Capitalization

namespace Word

/-- Behind a cut, a text of attached small letters does not start with one. -/
theorem notFirst_lower_of_cut {w rest : Text} (hw : IsWord w) (hcut : EndsBefore w rest)
    (h : Text.Attached (w ++ rest)) : rest.NotFirst .lower := by
  intro b hb hlower
  obtain ⟨r, rfl⟩ := List.head?_eq_some_iff.1 hb
  have ha := List.getLast?_eq_some_getLast hw.ne_nil
  have hsep := hw.class_ne_separator (List.getLast_mem hw.ne_nil)
  have hpair := (List.isChain_append.1 h).2.2 _ ha b rfl
  rcases hcut _ ha b r rfl with ⟨hne, hupper⟩ | ⟨-, hupper, -⟩
  · -- The last character of the word is no separator, no capital and no small letter.
    apply hpair
    refine ⟨?_, hlower⟩
    cases hclass : CharClass.of (w.getLast hw.ne_nil) with
    | digit => rfl
    | upper => exact absurd ⟨hclass, hlower⟩ hupper
    | lower => exact absurd (hclass.trans hlower.symm) hne
    | separator => exact absurd hclass hsep
  · rw [hlower] at hupper
    cases hupper

/-- The words of such a text do not start with small letters, unless the text does. -/
theorem notFirst_lower_of_mem_breakWords {t : Text} (hsep : t.Lacks .separator)
    (h : t.Attached) (hfirst : t.NotFirst .lower) {w : Word} (hw : w ∈ breakWords t) :
    w.text.NotFirst .lower := by
  induction t using breakWords_induction with
  | nil => simp at hw
  | separator c t hc ih => exact absurd hc (Text.lacks_cons.1 hsep).1
  | word u rest hu hcut ih =>
    rw [breakWords_append hu hcut] at hw
    rcases List.mem_cons.1 hw with rfl | hw
    · obtain ⟨c, u, rfl⟩ := List.exists_cons_of_ne_nil hu.ne_nil
      exact Text.notFirst_cons.2 (Text.notFirst_cons.1 hfirst)
    · exact ih (Text.lacks_append.1 hsep).2 h.right (notFirst_lower_of_cut hu hcut h) hw

/-- The first word of a text that does not start with a capital has no capitals. -/
theorem IsWord.lacks_upper {w : Text} (hw : IsWord w) (h : w.NotFirst .upper) :
    w.Lacks .upper := by
  cases w with
  | nil => exact hw.elim
  | cons c t =>
    have hc := Text.notFirst_cons.1 h
    obtain ⟨-, hsame | ⟨hupper, -⟩⟩ := hw
    · refine Text.lacks_cons.2 ⟨hc, fun d hd => ?_⟩
      rwa [hsame d hd]
    · exact absurd hupper hc

end Word

namespace Capitalization

/-- The words of a text that fits the scheme are cased as the scheme asks. -/
theorem cased_breakWords {scheme : Capitalization} {t : Text} (hsep : t.Lacks .separator)
    (h : scheme.Fits t) : scheme.Cased ((Word.breakWords t).map Word.text) := by
  induction t using Word.breakWords_induction with
  | nil => simp [Cased]
  | separator c t hc _ => exact absurd hc (Text.lacks_cons.1 hsep).1
  | word u rest hu hcut _ =>
    obtain ⟨hfits, hattached⟩ := h
    obtain ⟨-, hsep'⟩ := Text.lacks_append.1 hsep
    have hlater : ∀ {cls : CharClass}, rest.Lacks cls →
        ∀ q ∈ (Word.breakWords rest).map Word.text, q.Lacks cls := by
      intro cls hlacks q hq c hc
      obtain ⟨w, hw, rfl⟩ := List.mem_map.1 hq
      exact hlacks c (Word.mem_of_mem_breakWords hw hc)
    have hcapital : Text.Attached (u ++ rest) →
        ∀ q ∈ (Word.breakWords rest).map Word.text, q.NotFirst .lower := by
      intro hatt q hq
      obtain ⟨w, hw, rfl⟩ := List.mem_map.1 hq
      exact Word.notFirst_lower_of_mem_breakWords hsep' hatt.right
        (Word.notFirst_lower_of_cut hu hcut hatt) hw
    have hfront : ∀ {cls : CharClass}, Text.NotFirst cls (u ++ rest) → u.NotFirst cls := by
      intro cls hcls
      obtain ⟨c, u, rfl⟩ := List.exists_cons_of_ne_nil hu.ne_nil
      exact Text.notFirst_cons.2 (Text.notFirst_cons.1 hcls)
    rw [Word.breakWords_append hu hcut, List.map_cons, Word.text_ofText]
    cases scheme with
    | pascalCase => exact ⟨hfront hfits, hcapital (hattached rfl)⟩
    | camelCase => exact ⟨hu.lacks_upper (hfront hfits), hcapital (hattached rfl)⟩
    | firstWordUpper =>
      obtain ⟨hfirst, htail⟩ := hfits
      rw [List.tail_append_of_ne_nil hu.ne_nil] at htail
      obtain ⟨hu', hrest⟩ := Text.lacks_append.1 htail
      exact ⟨⟨hfront hfirst, hu'⟩, hlater hrest⟩
    | allUpper | allLower =>
      obtain ⟨hu', hrest⟩ := Text.lacks_append.1 hfits
      exact ⟨hu', hlater hrest⟩

end Capitalization

/-! ## Without a separator -/

namespace Word

theorem map_ofText_text_breakWords (t : Text) :
    ((breakWords t).map text).map ofText = breakWords t := by
  rw [List.map_map]
  calc (breakWords t).map (ofText ∘ text) = (breakWords t).map id :=
        List.map_congr_left fun w hw => (isWord_of_mem_breakWords hw).2.symm
    _ = breakWords t := List.map_id _

/-- The words of a text without separators are the text. -/
theorem flatten_breakWords {t : Text} (h : t.Lacks .separator) :
    ((breakWords t).map text).flatten = t := by
  have hself : t.filter isWordChar = t := by
    refine List.filter_eq_self.2 fun c hc => ?_
    simpa [isWordChar] using h c hc
  rw [← List.flatMap_def, ← hself]
  simpa [joined, hself] using joined_breakWords t

/-- Several capitals are an acronym. -/
theorem isAcronym_of_upper {t : Text} (hlen : 1 < t.length)
    (h : ∀ c ∈ t, CharClass.of c = .upper) : isAcronym t = true := by
  have hupper : ∀ c ∈ t, Unicode.isUppercase c = true :=
    fun c hc => CharClass.of_eq_upper_iff.1 (h c hc)
  have hletters : t.filter Unicode.isAlphabetic = t :=
    List.filter_eq_self.2 fun c hc => Unicode.isAlphabetic_of_isUppercase (hupper c hc)
  have hne : t ≠ [] := List.length_pos_iff.1 (by omega)
  simp [isAcronym, hletters, hlen, hne, List.all_eq_true.2 hupper]

/-- The words of an ASCII name are regular: a capital behind the first character makes an
acronym. -/
theorem isRegular_of_isWord {t : Text} (ht : t.IsAscii) (h : IsWord t) : (ofText t).IsRegular where
  ne_nil := h.ne_nil
  isAscii := ht
  lacks_separator := fun _ hc => h.class_ne_separator hc
  marked := by
    intro hacronym d hd hupper
    cases t with
    | nil => cases hd
    | cons c t =>
      replace hd : d ∈ t := hd
      obtain ⟨-, hsame | ⟨-, hlower⟩⟩ := h
      · have hc : CharClass.of c = .upper := (hsame d hd).symm.trans hupper
        have hall : ∀ x ∈ c :: t, CharClass.of x = .upper := by
          intro x hx
          rcases List.mem_cons.1 hx with rfl | hx
          · exact hc
          · rw [hsame x hx, hc]
        have hlen := List.length_pos_of_mem hd
        have htrue := isAcronym_of_upper (by simpa using hlen) hall
        rw [show isAcronym (c :: t) = false from hacronym] at htrue
        cases htrue
      · rw [hlower d hd] at hupper
        cases hupper

/-- A word as the word breaker finds it in an ASCII name. -/
structure IsOrdinary (w : Word) : Prop where
  isAscii : w.text.IsAscii
  isWord : IsWord w.text
  eq_ofText : w = ofText w.text

theorem isOrdinary_of_mem_breakWords {t : Text} (ht : t.IsAscii) {w : Word}
    (h : w ∈ breakWords t) : w.IsOrdinary where
  isAscii := fun c hc => ht c (mem_of_mem_breakWords h hc)
  isWord := (isWord_of_mem_breakWords h).1
  eq_ofText := (isWord_of_mem_breakWords h).2

theorem IsOrdinary.isRegular {w : Word} (h : w.IsOrdinary) : w.IsRegular := by
  rw [h.eq_ofText]
  exact isRegular_of_isWord h.isAscii h.isWord

end Word

namespace Capitalization

/-- The pieces made of regular words hold ASCII letters and numerals. -/
theorem piece_of_mem_caseWords {scheme : Capitalization} {ws : List Word}
    (hws : ∀ w ∈ ws, w.IsRegular) {p : Text} (hp : p ∈ scheme.caseWords ws) :
    p ≠ [] ∧ p.IsAscii ∧ p.Lacks .separator := by
  obtain ⟨w, hw, hcase⟩ := exists_of_mem_caseWords (fun v hv => (hws v hv).isAscii) hp
  obtain ⟨hne, hascii, hsep, -⟩ := hws w hw
  refine ⟨?_, ?_, ?_⟩
  · rintro rfl
    exact hne (Text.lowerAscii_eq_nil_iff.1 hcase.symm)
  · rwa [← Text.isAscii_lowerAscii, hcase, Text.isAscii_lowerAscii]
  · exact (Text.forall_class_iff (P := fun cls => cls ≠ .separator) (by decide) hcase hascii).2 hsep

theorem caseWords_ne_nil (scheme : Capitalization) {ws : List Word} (hws : ws ≠ []) :
    scheme.caseWords ws ≠ [] := by
  obtain ⟨w, ws, rfl⟩ := List.exists_cons_of_ne_nil hws
  simp [caseWords]

theorem caseWords_concat (scheme : Capitalization) {ws : List Word} (hws : ws ≠ []) (w : Word) :
    scheme.caseWords (ws ++ [w]) = scheme.caseWords ws ++ [scheme.caseLater w] := by
  obtain ⟨v, vs, rfl⟩ := List.exists_cons_of_ne_nil hws
  simp [caseWords]

end Capitalization

namespace Style

variable {style : Style}

theorem renderBody_of_separator_nil (hsep : style.wordSeparator = []) (ws : List Word) :
    style.renderBody ws = (style.capitalization.caseWords ws).flatten := by
  rw [renderBody, hsep, Text.joinWith_nil]

theorem renderBody_concat (style : Style) {ws : List Word} (hws : ws ≠ []) (w : Word) :
    style.renderBody (ws ++ [w]) =
      style.renderBody ws ++ (style.wordSeparator ++ style.capitalization.caseLater w) := by
  rw [renderBody, Capitalization.caseWords_concat _ hws,
    Text.joinWith_concat (Capitalization.caseWords_ne_nil _ hws)]
  rfl

/-- Regular words in a row fit the scheme, if small letters are attached. -/
theorem fits_renderBody (hsep : style.wordSeparator = []) {ws : List Word} (hne : ws ≠ [])
    (hws : ∀ w ∈ ws, w.IsRegular)
    (hattached : style.capitalization.marksWords = true → (style.renderBody ws).Attached) :
    style.capitalization.Fits (style.renderBody ws) := by
  rw [renderBody_of_separator_nil hsep] at hattached ⊢
  have hcased := style.capitalization.cased_caseWords hws
  obtain ⟨p, ps, hps⟩ := List.exists_cons_of_ne_nil (style.capitalization.caseWords_ne_nil hne)
  have hmem : p ∈ style.capitalization.caseWords ws := by
    rw [hps]
    exact List.mem_cons_self
  have hp := (Capitalization.piece_of_mem_caseWords hws hmem).1
  rw [hps] at hcased hattached ⊢
  exact Capitalization.fits_flatten hp hcased hattached

/-- A text that fits the scheme is rendered as it is. -/
theorem renderBody_breakWords_eq_self (hsep : style.wordSeparator = []) {t : Text}
    (ht : t.IsAscii) (hlacks : t.Lacks .separator) (h : style.capitalization.Fits t) :
    style.renderBody (Word.breakWords t) = t := by
  have hascii : ∀ p ∈ (Word.breakWords t).map Word.text, p.IsAscii := by
    intro p hp c hc
    obtain ⟨w, hw, rfl⟩ := List.mem_map.1 hp
    exact ht c (Word.mem_of_mem_breakWords hw hc)
  have hcased := Capitalization.caseWords_ofText hascii (Capitalization.cased_breakWords hlacks h)
  rw [Word.map_ofText_text_breakWords] at hcased
  rw [renderBody_of_separator_nil hsep, hcased, Word.flatten_breakWords hlacks]

end Style

end Nomenclator
