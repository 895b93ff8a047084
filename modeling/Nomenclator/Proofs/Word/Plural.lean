import Nomenclator.Proofs.Style.Rendering
import Nomenclator.Word.Plural

/-!
# Plurals of ASCII words

The plural of a word is a front that the word and its plural share, or a new first letter, followed
by small letters (`exists_pluralize`). So plurals are regular words (`Inflected.isRegular`). They
need not be words that the breaker finds, though: the plural of a numeral holds numerals and a small
letter (`pluralize_numeral`), and no other plural mixes the two (`Inflected.uniform_or`).
-/

namespace Nomenclator.Word

/-! ## The irregular nouns -/

/-- The text holds small ASCII letters only. -/
def IsSmall (t : Text) : Prop := ∀ c ∈ t, c.toNat < 128 ∧ CharClass.of c = .lower

theorem isSmall_of_all {t : Text}
    (h : t.all (fun c => c.toNat < 128 && CharClass.of c = .lower) = true) : IsSmall t := by
  intro c hc
  simpa using List.all_eq_true.1 h c hc

theorem isSmall_irregularPlurals :
    ∀ entry ∈ irregularPlurals, IsSmall entry.1.toList ∧ IsSmall entry.2.toList ∧
      entry.2.toList ≠ [] := by
  have hall : ∀ entry ∈ irregularPlurals,
      entry.1.toList.all (fun c => c.toNat < 128 && CharClass.of c = .lower) = true ∧
      entry.2.toList.all (fun c => c.toNat < 128 && CharClass.of c = .lower) = true ∧
      entry.2.toList ≠ [] := by decide
  intro entry hentry
  obtain ⟨hone, hmany, hne⟩ := hall entry hentry
  exact ⟨isSmall_of_all hone, isSmall_of_all hmany, hne⟩

theorem irregularPlural?_eq_some {noun many : Text} (h : irregularPlural? noun = some many) :
    IsSmall noun ∧ IsSmall many ∧ many ≠ [] := by
  obtain ⟨entry, hfind, rfl⟩ := Option.map_eq_some_iff.1 h
  obtain ⟨hone, hmany, hne⟩ := isSmall_irregularPlurals entry (List.mem_of_find?_eq_some hfind)
  have hnoun := List.find?_some hfind
  simp only [Bool.or_eq_true, beq_iff_eq] at hnoun
  refine ⟨?_, hmany, hne⟩
  rcases hnoun with rfl | rfl
  · exact hone
  · exact hmany

theorem exists_matchFirstLetter {t many : Text} (hmany : IsSmall many) (hne : many ≠ []) :
    ∃ c rest, matchFirstLetter t many = c :: rest ∧ c.toNat < 128 ∧
      (CharClass.of c = .lower ∨ CharClass.of c = .upper) ∧ IsSmall rest := by
  obtain ⟨c, rest, rfl⟩ := List.exists_cons_of_ne_nil hne
  have hrest : IsSmall rest := fun d hd => hmany d (List.mem_cons_of_mem c hd)
  obtain ⟨hc, hlower⟩ := hmany c List.mem_cons_self
  have hself : ∃ d tail, c :: rest = d :: tail ∧ d.toNat < 128 ∧
      (CharClass.of d = .lower ∨ CharClass.of d = .upper) ∧ IsSmall tail :=
    ⟨c, rest, rfl, hc, Or.inl hlower, hrest⟩
  cases t with
  | nil => exact hself
  | cons p t =>
    simp only [matchFirstLetter]
    split
    · have hupper : CharClass.of c.toUpper = .upper := by
        rw [Unicode.class_toUpper hc, if_pos hlower]
      exact ⟨c.toUpper, rest, by rw [Unicode.upper_ascii hc]; rfl, Unicode.toUpper_lt hc,
        Or.inr hupper, hrest⟩
    · exact hself

/-! ## The shape of a plural -/

theorem dropLast_ne_nil_of_endsInConsonantY {t : Text} (ht : t.IsAscii)
    (h : endsInConsonantY (Unicode.lowercase t) = true) : t.dropLast ≠ [] := by
  rw [Unicode.lowercase_ascii ht] at h
  unfold endsInConsonantY at h
  split at h
  · rename_i c rest hrev
    have hlen := congrArg List.length hrev
    simp only [List.length_reverse, List.length_map, List.length_cons] at hlen
    rw [← List.length_pos_iff, List.length_dropLast]
    omega
  · cases h

/-- The plural of the text can start with this: a front of the text, or another first letter. -/
structure IsStem (t front : Text) : Prop where
  ne_nil : front ≠ []
  isAscii : front.IsAscii
  lacks_separator : front.Lacks .separator
  tail_subset : ∀ c ∈ front.tail, c ∈ t.tail
  lacks_digit : t.Lacks .digit → front.Lacks .digit

theorem isStem_of_prefix {t front : Text} (ht : t.IsAscii) (hsep : t.Lacks .separator)
    (hne : front ≠ []) (hfront : front <+: t) : IsStem t front where
  ne_nil := hne
  isAscii c hc := ht c (hfront.subset hc)
  lacks_separator c hc := hsep c (hfront.subset hc)
  tail_subset := by
    obtain ⟨rest, rfl⟩ := hfront
    intro c hc
    rw [List.tail_append_of_ne_nil hne]
    exact List.mem_append_left rest hc
  lacks_digit hdigit c hc := hdigit c (hfront.subset hc)

theorem lacks_letter {c : Char} (hletter : CharClass.of c = .lower ∨ CharClass.of c = .upper)
    {cls : CharClass} (hlower : cls ≠ .lower) (hupper : cls ≠ .upper) : Text.Lacks cls [c] := by
  refine Text.lacks_cons.2 ⟨?_, Text.lacks_nil _⟩
  rcases hletter with h | h
  · rw [h]
    exact hlower.symm
  · rw [h]
    exact hupper.symm

theorem isStem_letter (t : Text) {c : Char} (hascii : c.toNat < 128)
    (hletter : CharClass.of c = .lower ∨ CharClass.of c = .upper) : IsStem t [c] where
  ne_nil := List.cons_ne_nil c []
  isAscii := Text.isAscii_cons.2 ⟨hascii, Text.isAscii_nil⟩
  lacks_separator := lacks_letter hletter (by decide) (by decide)
  tail_subset := by simp
  lacks_digit _ := lacks_letter hletter (by decide) (by decide)

/-- The plural of a word is a front of the word, or a new first letter, and small letters behind
it. -/
theorem exists_pluralize {t : Text} (ht : t.IsAscii) (hne : t ≠ []) (hsep : t.Lacks .separator) :
    ∃ front back, pluralize t = front ++ back ∧ IsStem t front ∧ IsSmall back := by
  have hself : IsStem t t := isStem_of_prefix ht hsep hne (List.prefix_refl t)
  unfold pluralize
  rw [if_neg hne]
  simp only
  split
  · rename_i many hmany
    obtain ⟨-, hsmall, hmne⟩ := irregularPlural?_eq_some hmany
    obtain ⟨c, rest, hc, hascii, hclass, hrest⟩ := exists_matchFirstLetter (t := t) hsmall hmne
    exact ⟨[c], rest, hc, isStem_letter t hascii hclass, hrest⟩
  · split
    · rename_i hy
      exact ⟨t.dropLast, _, rfl, isStem_of_prefix ht hsep (dropLast_ne_nil_of_endsInConsonantY ht hy)
        t.dropLast_prefix, isSmall_of_all (by decide)⟩
    · split
      · exact ⟨t, _, rfl, hself, isSmall_of_all (by decide)⟩
      · exact ⟨t, _, rfl, hself, isSmall_of_all (by decide)⟩

/-- A numeral becomes plural by a small letter behind it. -/
theorem pluralize_numeral {t : Text} (ht : t.IsAscii) (hne : t ≠ [])
    (hdigits : ∀ c ∈ t, CharClass.of c = .digit) : pluralize t = t ++ "s".toList := by
  have hself : Unicode.lowercase t = t :=
    Unicode.lowercase_eq_self ht fun c hc => by simp [hdigits c hc]
  have hletter : ∀ c ∈ t, CharClass.of c ≠ .lower := fun c hc => by simp [hdigits c hc]
  have hregular : irregularPlural? t = none := by
    rw [Option.eq_none_iff_forall_ne_some]
    intro many hmany
    obtain ⟨c, hc⟩ := List.exists_mem_of_ne_nil t hne
    exact hletter c hc ((irregularPlural?_eq_some hmany).1 c hc).2
  have hy : endsInConsonantY t = false := by
    unfold endsInConsonantY
    split
    · rename_i c rest hrev
      have hmem : 'y' ∈ t := by
        rw [← List.mem_reverse, hrev]
        exact List.mem_cons_self
      exact absurd (by decide) (hletter 'y' hmem)
    · rfl
  have hsibilant : endsInSibilant t = false := by
    unfold endsInSibilant
    rw [List.any_eq_false]
    intro ending hending hends
    have hsmall : ∀ e ∈ ["s", "x", "z", "ch", "sh"],
        e.toList.any (fun c => CharClass.of c = .lower) = true := by decide
    obtain ⟨c, hc, hlower⟩ := List.any_eq_true.1 (hsmall ending hending)
    exact hletter c ((Text.endsWith_iff.1 hends).subset hc) (of_decide_eq_true hlower)
  unfold pluralize
  rw [if_neg hne]
  simp [hself, hregular, hy, hsibilant]

/-! ## Inflected words -/

/-- A word of an ASCII name, or the plural of one that is marked as the word was. -/
def Inflected (w : Word) : Prop :=
  ∃ u : Word, u.IsOrdinary ∧ (w = u ∨ w = u.respell (pluralize u.text))

/-- The plural of a numeral. -/
def IsPluralNumeral (w : Word) : Prop :=
  ∃ d : Text, d ≠ [] ∧ (∀ c ∈ d, CharClass.of c = .digit) ∧ w.text = d ++ "s".toList

theorem IsOrdinary.inflected {w : Word} (h : w.IsOrdinary) : w.Inflected := ⟨w, h, Or.inl rfl⟩

theorem IsSmall.lacks {t : Text} (h : IsSmall t) {cls : CharClass} (hcls : cls ≠ .lower) :
    t.Lacks cls := by
  intro c hc
  rw [(h c hc).2]
  exact hcls.symm

theorem Inflected.isRegular {w : Word} (h : w.Inflected) : w.IsRegular := by
  obtain ⟨u, hu, rfl | rfl⟩ := h
  · exact hu.isRegular
  · obtain ⟨hne, hascii, hsep, hmarked⟩ := hu.isRegular
    obtain ⟨front, back, heq, hstem, hback⟩ := exists_pluralize hascii hne hsep
    have htext : (u.respell (pluralize u.text)).text = front ++ back := heq
    refine ⟨?_, ?_, ?_, fun hacronym => ?_⟩ <;> rw [htext]
    · simp [hstem.ne_nil]
    · exact Text.isAscii_append.2 ⟨hstem.isAscii, fun c hc => (hback c hc).1⟩
    · exact Text.lacks_append.2 ⟨hstem.lacks_separator, hback.lacks (by decide)⟩
    · rw [List.tail_append_of_ne_nil hstem.ne_nil]
      exact Text.lacks_append.2
        ⟨fun c hc => hmarked hacronym c (hstem.tail_subset c hc), hback.lacks (by decide)⟩

/-- Only the plural of a numeral mixes letters and numerals. -/
theorem Inflected.uniform_or {w : Word} (h : w.Inflected) :
    w.text.Uniform ∨ w.IsPluralNumeral := by
  obtain ⟨u, hu, rfl | rfl⟩ := h
  · exact Or.inl hu.isWord.uniform
  · obtain ⟨hne, hascii, hsep, -⟩ := hu.isRegular
    rcases hu.isWord.uniform with hletters | hdigits
    · obtain ⟨front, back, heq, hstem, hback⟩ := exists_pluralize hascii hne hsep
      left
      left
      rw [text_respell, heq]
      exact Text.lacks_append.2 ⟨hstem.lacks_digit hletters, hback.lacks (by decide)⟩
    · exact Or.inr ⟨u.text, hne, hdigits, pluralize_numeral hascii hne hdigits⟩

/-- A phrase in the plural holds words of the phrase and plurals of such. -/
theorem exists_of_mem_pluralizeLast {ws : List Word} {w : Word} (h : w ∈ pluralizeLast ws) :
    ∃ u ∈ ws, w = u ∨ w = u.respell (pluralize u.text) := by
  fun_induction pluralizeLast ws with
  | case1 => cases h
  | case2 u =>
    rw [List.mem_singleton.1 h]
    exact ⟨u, List.mem_cons_self, Or.inr rfl⟩
  | case3 u v ws ih =>
    rcases List.mem_cons.1 h with rfl | h
    · exact ⟨w, List.mem_cons_self, Or.inl rfl⟩
    · obtain ⟨x, hx, hw⟩ := ih h
      exact ⟨x, List.mem_cons_of_mem u hx, hw⟩

theorem pluralizeLast_ne_nil {ws : List Word} (h : ws ≠ []) : pluralizeLast ws ≠ [] := by
  fun_cases pluralizeLast ws with
  | case1 => exact absurd rfl h
  | case2 w => simp
  | case3 w v ws => simp

theorem ite_pluralizeLast_ne_nil (plural : Bool) {ws : List Word} (h : ws ≠ []) :
    (if plural then pluralizeLast ws else ws) ≠ [] := by
  split
  · exact pluralizeLast_ne_nil h
  · exact h

/-- What holds of some words, and still of their plurals, holds of the words whether or not the last one
is put in the plural. -/
theorem forall_mem_ite_pluralizeLast {P Q : Word → Prop} (hkept : ∀ w, P w → Q w)
    (hplural : ∀ w, P w → Q (w.respell (pluralize w.text))) (plural : Bool) {ws : List Word}
    (hws : ∀ w ∈ ws, P w) : ∀ w ∈ if plural then pluralizeLast ws else ws, Q w := by
  intro w hw
  cases plural with
  | false => exact hkept w (hws w hw)
  | true =>
    obtain ⟨u, hu, rfl | rfl⟩ := exists_of_mem_pluralizeLast hw
    · exact hkept w (hws w hu)
    · exact hplural u (hws u hu)

end Nomenclator.Word
