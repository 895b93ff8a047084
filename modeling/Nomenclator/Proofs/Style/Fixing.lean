import Nomenclator.Proofs.Style.Compliance

/-!
# Fixes pass the check

A name that breaks its rule comes with names to use instead: a rendering of its own words, and for a
name with a marker a rendering of the words behind the marker. Both comply, so the check that asked
for them accepts them, and fixing one of them again gives it back first (`fixes_pass`).

The second half needs more than compliance: fixing breaks a name into words even where the style has
a separator, so a piece between two separators has to be a single word again (`isWord_caseFirst`,
`isWord_caseLater`).
-/

namespace Nomenclator

/-! ## Cased words are words -/

namespace Word

/-- Letters only or numerals only make one word, if the letters are cased alike or only the first of
them is a capital. -/
theorem isWord_of_uniform {t : Text} (hne : t ≠ []) (hsep : t.Lacks .separator) (h : t.Uniform)
    (hcase : t.Lacks .upper ∨ t.Lacks .lower ∨ t.NotFirst .lower ∧ Text.Lacks .upper t.tail) :
    IsWord t := by
  obtain ⟨c, t, rfl⟩ := List.exists_cons_of_ne_nil hne
  obtain ⟨hc, ht⟩ := Text.lacks_cons.1 hsep
  rcases h with hletters | hdigits
  · obtain ⟨hcd, htd⟩ := Text.lacks_cons.1 hletters
    have hlower : ∀ d : Char, CharClass.of d ≠ .separator → CharClass.of d ≠ .digit →
        CharClass.of d ≠ .upper → CharClass.of d = .lower := by
      intro d
      cases CharClass.of d <;> simp
    have hupper : ∀ d : Char, CharClass.of d ≠ .separator → CharClass.of d ≠ .digit →
        CharClass.of d ≠ .lower → CharClass.of d = .upper := by
      intro d
      cases CharClass.of d <;> simp
    rcases hcase with hsmall | hcapital | ⟨hfirst, htail⟩
    · obtain ⟨hcu, htu⟩ := Text.lacks_cons.1 hsmall
      exact isWord_cons_same (by decide) (hlower c hc hcd hcu)
        fun d hd => hlower d (ht d hd) (htd d hd) (htu d hd)
    · obtain ⟨hcl, htl⟩ := Text.lacks_cons.1 hcapital
      exact isWord_cons_same (by decide) (hupper c hc hcd hcl)
        fun d hd => hupper d (ht d hd) (htd d hd) (htl d hd)
    · exact ⟨hc, Or.inr ⟨hupper c hc hcd (Text.notFirst_cons.1 hfirst),
        fun d hd => hlower d (ht d hd) (htd d hd) (htail d hd)⟩⟩
  · exact isWord_cons_same (by decide) (hdigits c List.mem_cons_self)
      fun d hd => hdigits d (List.mem_cons_of_mem c hd)

theorem isWord_capitalize {t : Text} (ht : t.IsAscii) (h : IsWord t) :
    IsWord (capitalize t) := by
  by_cases hfirst : t.NotFirst .lower
  · rwa [capitalize_eq_self ht hfirst]
  · -- A word that starts with a small letter has small letters only.
    cases t with
    | nil => exact h.elim
    | cons c t =>
      have hlower : CharClass.of c = .lower := by
        by_contra hc
        exact hfirst (Text.notFirst_cons.2 hc)
      have hc := (Text.isAscii_cons.1 ht).1
      have hupper : CharClass.of c.toUpper = .upper := by
        rw [Unicode.class_toUpper hc, if_pos hlower]
      rw [capitalize_cons hc]
      obtain ⟨-, hsame | ⟨hup, -⟩⟩ := h
      · refine ⟨by simp [hupper], Or.inr ⟨hupper, fun d hd => ?_⟩⟩
        rw [hsame d hd, hlower]
      · rw [hlower] at hup
        cases hup

end Word

namespace Capitalization

variable {scheme : Capitalization} {ws : List Word}

/-- A scheme makes words of the words of a name. -/
theorem isWord_of_mem_caseWords
    (hws : ∀ w ∈ ws, w.IsOrdinary) {p : Text} (hp : p ∈ scheme.caseWords ws) : Word.IsWord p := by
  have hregular : ∀ w ∈ ws, w.IsRegular := fun w hw => (hws w hw).isRegular
  obtain ⟨hne, -, hsep⟩ := piece_of_mem_caseWords hregular hp
  obtain ⟨v, hv, hcase⟩ := exists_of_mem_caseWords (fun w hw => (hws w hw).isAscii) hp
  have huniform : p.Uniform := (Text.uniform_iff hcase (hws v hv).isAscii).2 (hws v hv).isWord.uniform
  have hword := Word.isWord_of_uniform hne hsep huniform
  cases ws with
  | nil => cases hp
  | cons w ws =>
    rcases List.mem_cons.1 hp with rfl | hp
    · have hcased := scheme.firstCased_caseFirst (hregular w List.mem_cons_self)
      cases scheme with
      | pascalCase =>
        obtain ⟨hascii, hw, -⟩ := hws w List.mem_cons_self
        exact Word.isWord_capitalize hascii hw
      | camelCase | allLower => exact hword (Or.inl hcased)
      | firstWordUpper => exact hword (Or.inr (Or.inr hcased))
      | allUpper => exact hword (Or.inr (Or.inl hcased))
    · obtain ⟨u, hu, rfl⟩ := List.mem_map.1 hp
      obtain ⟨hascii, hu, -⟩ := hws u (List.mem_cons_of_mem w hu)
      have hcased := scheme.laterCased_caseLater hascii
      cases scheme with
      | pascalCase | camelCase => exact Word.isWord_capitalize hascii hu
      | firstWordUpper | allLower => exact hword (Or.inl hcased)
      | allUpper => exact hword (Or.inr (Or.inl hcased))

end Capitalization

/-! ## Fixing a rendered name -/

namespace Style

variable {style : Style} {ws : List Word}

/-- The words of an ASCII name are found again in their rendering, cased: rendering them anew changes
nothing. -/
theorem renderBody_breakWords_renderBody
    (hsep : ∀ c ∈ style.wordSeparator, CharClass.of c = .separator)
    (hne : ws ≠ []) (hws : ∀ w ∈ ws, w.IsOrdinary) :
    style.renderBody (Word.breakWords (style.renderBody ws)) = style.renderBody ws := by
  have hregular : ∀ w ∈ ws, w.IsRegular := fun w hw => (hws w hw).isRegular
  by_cases hnil : style.wordSeparator = []
  · obtain ⟨hascii, hlacks⟩ := isAscii_lacks_renderBody hnil hregular
    refine renderBody_breakWords_eq_self hnil hascii hlacks (fits_renderBody hnil hne hregular ?_)
    exact fun hmarks => attached_renderBody hnil hmarks fun w hw =>
      ⟨(hws w hw).isAscii, (hws w hw).isWord.uniform⟩
  · have hwords : Word.breakWords (style.renderBody ws) =
        (style.capitalization.caseWords ws).map .ofText :=
      Word.breakWords_joinWith hnil hsep fun p hp => Capitalization.isWord_of_mem_caseWords hws hp
    rw [hwords, renderBody_ofText_caseWords hregular]

/-- The first fix of a name renders all words of it. -/
theorem head?_fixes_eq_some_iff {name f : Text} :
    (style.fixes name).head? = some f ↔
      Word.breakWords (style.core name) ≠ [] ∧
        f = style.render (Word.breakWords (style.core name)) := by
  rw [fixes]
  cases Word.breakWords (style.core name) with
  | nil => simp
  | cons w rest =>
    cases rest with
    | nil => simp [eq_comm]
    | cons v vs =>
      simp only
      split <;> simp [eq_comm]

/-- Fixing a rendering of the words of an ASCII name gives it back first. -/
theorem head?_fixes_render (hverbatim : style.requiredPrefix.head? ≠ some Reserved.verbatimMark)
    (hsep : ∀ c ∈ style.wordSeparator, CharClass.of c = .separator) (hne : ws ≠ [])
    (hws : ∀ w ∈ ws, w.IsOrdinary) :
    (style.fixes (style.render ws)).head? = some (style.render ws) := by
  have hregular : ∀ w ∈ ws, w.IsRegular := fun w hw => (hws w hw).isRegular
  have hself := renderBody_breakWords_renderBody hsep hne hws
  rw [head?_fixes_eq_some_iff, core_render (head?_render_ne hverbatim hne hregular)]
  refine ⟨fun hnil => ?_, by rw [render, render, hself]⟩
  -- A body without words would be empty.
  obtain ⟨c, t, hbody, -⟩ := renderBody_eq_cons style hne hregular
  rw [hnil, hbody] at hself
  cases hself

/-- A rendering of the words of an ASCII name complies. -/
theorem isCompliant_render_of_isOrdinary
    (hverbatim : style.requiredPrefix.head? ≠ some Reserved.verbatimMark)
    (hsep : ∀ c ∈ style.wordSeparator, CharClass.of c = .separator) (hne : ws ≠ [])
    (hws : ∀ w ∈ ws, w.IsOrdinary) : style.isCompliant (style.render ws) = true := by
  refine (isCompliant_render_iff hverbatim hsep hne fun w hw => (hws w hw).isRegular).2 ?_
  exact fun hnil hmarks => attached_renderBody hnil hmarks fun w hw =>
    ⟨(hws w hw).isAscii, (hws w hw).isWord.uniform⟩

/-! ## The fixes of a name -/

theorem mem_of_mem_unescape {name : Text} {c : Char} (h : c ∈ Reserved.unescape name) :
    c ∈ name := by
  cases name with
  | nil => exact h
  | cons d name =>
    simp only [Reserved.unescape] at h
    split at h
    · exact List.mem_cons_of_mem d h
    · exact h

theorem mem_of_mem_dropPrefix? {p t : Text} {c : Char}
    (h : c ∈ (Text.dropPrefix? p t).getD t) : c ∈ t := by
  cases hdrop : Text.dropPrefix? p t with
  | none => simpa [hdrop] using h
  | some r =>
    rw [Text.dropPrefix?_eq_some_iff.1 hdrop]
    exact List.mem_append_right p (by simpa [hdrop] using h)

theorem mem_of_mem_dropSuffix? {p t : Text} {c : Char}
    (h : c ∈ (Text.dropSuffix? p t).getD t) : c ∈ t := by
  cases hdrop : Text.dropSuffix? p t with
  | none => simpa [hdrop] using h
  | some r =>
    rw [Text.dropSuffix?_eq_some_iff.1 hdrop]
    exact List.mem_append_left p (by simpa [hdrop] using h)

/-- The core of a name holds characters of the name. -/
theorem mem_unescape_of_mem_core {name : Text} {c : Char} (h : c ∈ style.core name) :
    c ∈ Reserved.unescape name :=
  mem_of_mem_dropPrefix? (mem_of_mem_dropSuffix? h)

theorem mem_of_mem_core {name : Text} {c : Char} (h : c ∈ style.core name) : c ∈ name :=
  mem_of_mem_unescape (mem_unescape_of_mem_core h)

/-- A fix renders all words of the name, or those behind a marker. -/
theorem words_of_mem_fixes {name f : Text} (h : f ∈ style.fixes name) :
    ∃ ws, ws ≠ [] ∧ f = style.render ws ∧
      (ws = Word.breakWords (style.core name) ∨
        startsWithMarker (style.core name) = true ∧
          ws = (Word.breakWords (style.core name)).tail) := by
  rw [fixes] at h
  cases hwords : Word.breakWords (style.core name) with
  | nil =>
    rw [hwords] at h
    cases h
  | cons w rest =>
    rw [hwords] at h
    cases rest with
    | nil => exact ⟨[w], by simp, List.mem_singleton.1 h, Or.inl rfl⟩
    | cons v vs =>
      simp only at h
      split at h
      · rename_i hmarker
        rcases List.mem_cons.1 h with rfl | h
        · exact ⟨w :: v :: vs, by simp, rfl, Or.inl rfl⟩
        · exact ⟨v :: vs, by simp, List.mem_singleton.1 h,
            Or.inr ⟨(Bool.and_eq_true_iff.1 hmarker).1, rfl⟩⟩
      · exact ⟨w :: v :: vs, by simp, List.mem_singleton.1 h, Or.inl rfl⟩

/-- A fix renders words of the name. -/
theorem exists_of_mem_fixes {name f : Text} (h : f ∈ style.fixes name) :
    ∃ ws, ws ≠ [] ∧ (∀ w ∈ ws, w ∈ Word.breakWords (style.core name)) ∧ f = style.render ws := by
  obtain ⟨ws, hne, hf, rfl | ⟨-, rfl⟩⟩ := words_of_mem_fixes h
  · exact ⟨_, hne, fun _ hw => hw, hf⟩
  · exact ⟨_, hne, fun _ hw => List.mem_of_mem_tail hw, hf⟩

/-- Every fix of an ASCII name complies, and fixing it gives it back first. -/
theorem fix_is_fixed (hverbatim : style.requiredPrefix.head? ≠ some Reserved.verbatimMark)
    (hsep : ∀ c ∈ style.wordSeparator, CharClass.of c = .separator) {name f : Text}
    (hname : name.IsAscii) (hf : f ∈ style.fixes name) :
    style.isCompliant f = true ∧ (style.fixes f).head? = some f := by
  obtain ⟨ws, hne, hmem, rfl⟩ := exists_of_mem_fixes hf
  have hcore : (style.core name).IsAscii := fun c hc => hname c (mem_of_mem_core hc)
  have hws : ∀ w ∈ ws, w.IsOrdinary :=
    fun w hw => Word.isOrdinary_of_mem_breakWords hcore (hmem w hw)
  exact ⟨isCompliant_render_of_isOrdinary hverbatim hsep hne hws,
    head?_fixes_render hverbatim hsep hne hws⟩

end Style

/-! ## Fixes of a violation -/

namespace RuleSet

/-- The check accepts every fix that comes with a violation, and fixing one again gives it back
first: for every capitalization, every pair of affixes and every separator without letters and
numerals. -/
theorem fixes_pass (p : RuleSet) (symbol : Symbol) {name : Text} (hname : name.IsAscii)
    (hverbatim : (p.styleFor symbol).requiredPrefix.head? ≠ some Reserved.verbatimMark)
    (hsep : ∀ c ∈ (p.styleFor symbol).wordSeparator,
      Unicode.isAlphabetic c = false ∧ Unicode.isNumeric c = false)
    {v : Violation} (hv : p.checkName symbol name = some v) :
    ∀ f ∈ v.fixes, p.checkName symbol f = none ∧ (p.styleFor symbol).isCompliant f = true ∧
      (p.compliantNames symbol f).head? = some f := by
  intro f hf
  cases hrule : p.governingRule? symbol with
  | none => simp [checkName, hrule] at hv
  | some rule =>
    have hstyle : p.styleFor symbol = rule.style := by simp [styleFor, hrule]
    have hfixes : f ∈ rule.style.fixes name := by
      simp only [checkName, hrule] at hv
      split at hv
      · cases hv
      · cases hv
        exact hf
    rw [hstyle] at hverbatim hsep
    obtain ⟨hcompliant, hhead⟩ := Style.fix_is_fixed hverbatim
      (fun c hc => CharClass.of_eq_separator_iff.2 (hsep c hc)) hname hfixes
    refine ⟨?_, ?_, ?_⟩
    · simp [checkName, hrule, hcompliant]
    · rwa [hstyle]
    · rwa [compliantNames, hstyle]

/-- Both fixes of `m_Count` in camel case pass. -/
theorem fixes_pass_marker :
    ∃ v, builtin.checkName { kind := .field } "m_Count".toList = some v ∧
      v.fixes = ["mCount".toList, "count".toList] ∧
      ∀ f ∈ v.fixes, builtin.checkName { kind := .field } f = none ∧
        (builtin.styleFor { kind := .field }).isCompliant f = true ∧
        (builtin.compliantNames { kind := .field } f).head? = some f := by
  have hfixes : (builtin.checkName { kind := .field } "m_Count".toList).map Violation.fixes =
      some ["mCount".toList, "count".toList] := by decide +kernel
  have hsep : (builtin.styleFor { kind := .field }).wordSeparator = [] := by decide
  obtain ⟨v, hv, hvfixes⟩ := Option.map_eq_some_iff.1 hfixes
  exact ⟨v, hv, hvfixes,
    fixes_pass builtin _ (by simp [Text.IsAscii]) (by decide) (by simp [hsep]) hv⟩

end RuleSet

end Nomenclator
