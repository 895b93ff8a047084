import Nomenclator.Proofs.Word.Scanning

/-!
# The words of a name by a local rule

The word breaker scans runs and gives the last capital of a run back. What it finds can be said
without a scan: go along the name, drop the separators, and cut between two neighbours where the
rule `Cut` says so, which looks at the two and at the character behind them. The pieces that have
something in them are the words, in order (`pieces`, `breaks_breakWords`).

The step from the scan to the rule is that no cut falls inside a word (`not_cut_of_isWord`) and one
falls behind it, unless the name ends there or a separator follows.
-/

namespace Nomenclator.Word

/-! ## Pieces -/

instance decidableCut (a b : Char) (t : Text) : Decidable (Cut a b t) :=
  inferInstanceAs (Decidable ((_ ∧ ¬ (_ ∧ _)) ∨ (_ ∧ _ ∧ _)))

/-- There is a cut between the character and the text behind it. No cut touches a separator. -/
def cutBetween (a : Char) : Text → Bool
  | [] => false
  | b :: t => decide (CharClass.of b ≠ .separator) && decide (Cut a b t)

/-- The pieces of a text between its separators and its cuts. Pieces between two separators, and at
an end with a separator, have nothing in them. -/
def pieces : Text → List Text
  | [] => [[]]
  | c :: t =>
    if CharClass.of c = .separator then [] :: pieces t
    else if cutBetween c t then [c] :: pieces t
    else (pieces t).modifyHead (c :: ·)

/-! ## One word -/

/-- No cut falls inside a word that ends at a cut. -/
theorem not_cut_of_isWord {c d : Char} {w rest : Text} (hw : IsWord (c :: d :: w))
    (hend : EndsBefore (d :: w) rest) : ¬ Cut c d (w ++ rest) := by
  obtain ⟨-, hsame | ⟨hupper, hlower⟩⟩ := hw
  · have hd : CharClass.of d = CharClass.of c := hsame d List.mem_cons_self
    rintro (⟨hne, -⟩ | ⟨hc, -, hstart⟩)
    · exact hne hd.symm
    · -- Two capitals are cut only in front of a small letter, and none follows.
      cases w with
      | cons e w =>
        have he : CharClass.of e = .upper := by
          rw [hsame e (by simp), hc]
        simp [startsLower, he] at hstart
      | nil =>
        cases rest with
        | nil => simp [startsLower] at hstart
        | cons b r =>
          have hb : CharClass.of b = .lower := by simpa [startsLower] using hstart
          have hdu : CharClass.of d = .upper := hd.trans hc
          rcases hend d rfl b r rfl with ⟨-, hnot⟩ | ⟨-, hbu, -⟩
          · exact hnot ⟨hdu, hb⟩
          · rw [hb] at hbu
            cases hbu
  · have hd : CharClass.of d = .lower := hlower d List.mem_cons_self
    rintro (⟨-, hnot⟩ | ⟨-, hdu, -⟩)
    · exact hnot ⟨hupper, hd⟩
    · rw [hd] at hdu
      cases hdu

/-- What is left of a word without its first character is a word. -/
theorem IsWord.tail {c d : Char} {w : Text} (hw : IsWord (c :: d :: w)) : IsWord (d :: w) := by
  have hd : CharClass.of d ≠ .separator := hw.class_ne_separator (by simp)
  obtain ⟨-, hsame | ⟨-, hlower⟩⟩ := hw
  · refine ⟨hd, Or.inl ?_⟩
    intro e he
    rw [hsame e (List.mem_cons_of_mem d he), hsame d List.mem_cons_self]
  · refine ⟨hd, Or.inl ?_⟩
    intro e he
    rw [hlower e (List.mem_cons_of_mem d he), hlower d List.mem_cons_self]

/-- A word that ends at a cut is a piece. Behind it come the pieces of the rest, or those behind a
separator. The induction is on the characters of the word. -/
theorem exists_pieces_append {w rest : Text} (hw : IsWord w) (hend : EndsBefore w rest) :
    ∃ ps, pieces (w ++ rest) = w :: ps ∧
      ps.filter (· ≠ []) = (pieces rest).filter (· ≠ []) := by
  induction w with
  | nil => exact hw.elim
  | cons c w ih =>
    have hc : CharClass.of c ≠ .separator := hw.1
    cases w with
    | cons d w =>
      have hend' : EndsBefore (d :: w) rest := by
        intro a ha
        apply hend a
        rwa [List.getLast?_cons_of_ne_nil (List.cons_ne_nil d w)]
      have hcut : cutBetween c (d :: (w ++ rest)) = false := by
        simp [cutBetween, not_cut_of_isWord hw hend']
      obtain ⟨ps, hps, hrest⟩ := ih hw.tail hend'
      refine ⟨ps, ?_, hrest⟩
      rw [List.cons_append, pieces, if_neg hc, List.cons_append, hcut, if_neg (by simp),
        ← List.cons_append, hps]
      rfl
    | nil =>
      cases rest with
      | nil => exact ⟨[], by simp [pieces, hc, cutBetween], by simp [pieces]⟩
      | cons b r =>
        by_cases hb : CharClass.of b = .separator
        · refine ⟨pieces r, ?_, ?_⟩
          · simp [pieces, hc, hb, cutBetween]
          · simp [pieces, hb]
        · have hcut : cutBetween c (b :: r) = true := by
            simpa [cutBetween, hb] using hend c rfl b r rfl
          refine ⟨pieces (b :: r), ?_, rfl⟩
          rw [List.cons_append, List.nil_append, pieces, if_neg hc, if_pos hcut]

theorem filter_pieces_append {w rest : Text} (hw : IsWord w) (hend : EndsBefore w rest) :
    (pieces (w ++ rest)).filter (· ≠ []) = w :: (pieces rest).filter (· ≠ []) := by
  obtain ⟨ps, hps, hrest⟩ := exists_pieces_append hw hend
  rw [hps, List.filter_cons_of_pos (by simpa using hw.ne_nil), hrest]

/-! ## All words -/

/-- The words of a name are its pieces with something in them. -/
theorem breakWords_eq_map_pieces (t : Text) :
    breakWords t = ((pieces t).filter (· ≠ [])).map ofText := by
  induction t using breakWords_induction with
  | nil => simp [pieces]
  | separator c t hc ih =>
    rw [breakWords_separator_cons hc, ih]
    simp [pieces, hc]
  | word w rest hw hend ih =>
    rw [breakWords_append hw hend, filter_pieces_append hw hend, List.map_cons, ih]

/-- The text is made of the words, in order, and of separators around them. -/
def IsSliced (t : Text) (ws : List Word) : Prop :=
  ∃ (gaps : List Text) (last : Text),
    (∀ gap ∈ last :: gaps, ∀ c ∈ gap, CharClass.of c = .separator) ∧
    gaps.length = ws.length ∧
    t = (List.zipWith (fun gap w => gap ++ w.text) gaps ws).flatten ++ last

namespace IsSliced

theorem nil : IsSliced [] [] := ⟨[], [], by simp, rfl, rfl⟩

/-- A separator in front joins the first gap, or what is behind all words if there are none. -/
theorem separator_cons {c : Char} {t : Text} {ws : List Word} (hc : CharClass.of c = .separator)
    (h : IsSliced t ws) : IsSliced (c :: t) ws := by
  obtain ⟨gaps, last, hgaps, hlen, rfl⟩ := h
  cases ws with
  | nil =>
    obtain rfl : gaps = [] := List.length_eq_zero_iff.1 hlen
    refine ⟨[], c :: last, ?_, rfl, rfl⟩
    simpa [hc] using hgaps
  | cons w ws =>
    obtain ⟨gap, gaps, rfl⟩ := List.exists_cons_of_length_eq_add_one hlen
    refine ⟨(c :: gap) :: gaps, last, ?_, hlen, by simp⟩
    simpa [hc] using hgaps

/-- There is nothing between a word in front and the text. -/
theorem word_append {t : Text} {ws : List Word} (h : IsSliced t ws) (w : Word) :
    IsSliced (w.text ++ t) (w :: ws) := by
  obtain ⟨gaps, last, hgaps, hlen, rfl⟩ := h
  refine ⟨[] :: gaps, last, ?_, by simp [hlen], by simp⟩
  simpa using hgaps

end IsSliced

/-- The words are slices of whole characters of the text, in order, with separators only around
them. -/
theorem isSliced_breakWords (t : Text) : IsSliced t (breakWords t) := by
  induction t using breakWords_induction with
  | nil =>
    rw [breakWords_nil]
    exact IsSliced.nil
  | separator c t hc ih =>
    rw [breakWords_separator_cons hc]
    exact ih.separator_cons hc
  | word w rest hw hend ih =>
    rw [breakWords_append hw hend]
    exact ih.word_append (ofText w)

/-- These are the words of a text. -/
structure Breaks (t : Text) (ws : List Word) : Prop where
  /-- They are the pieces with something in them, in order, each marked by its own spelling. -/
  eq_pieces : ws = ((pieces t).filter (· ≠ [])).map ofText
  /-- The run of a cursor along the text ends, with these words and no other result. So no slice that it
  takes fails, none being at an offset within a character. -/
  yields_iff : ∀ out, (Words.ofText t).Yields out ↔ out = .ok ws
  /-- They are slices of whole characters, and what stands between them are separators. -/
  slices : ∃ (gaps : List Text) (last : Text),
    (∀ gap ∈ last :: gaps, ∀ c ∈ gap, CharClass.of c = .separator) ∧
    gaps.length = ws.length ∧
    t = (List.zipWith (fun gap w => gap ++ w.text) gaps ws).flatten ++ last
  text_ne_nil : ∀ w ∈ ws, w.text ≠ []
  joined_eq_filter : joined ws = t.filter fun c => CharClass.of c ≠ .separator
  joined_eq_self : (∀ c ∈ t, CharClass.of c ≠ .separator) → joined ws = t

/-- What the word breaker finds in a text are its pieces by the local rule, and they hold all of its
characters but the separators. -/
theorem breaks_breakWords (t : Text) : Breaks t (breakWords t) where
  eq_pieces := breakWords_eq_map_pieces t
  yields_iff := fun _ => Words.yields_ofText_iff
  slices := isSliced_breakWords t
  text_ne_nil := fun w hw => (isWord_of_mem_breakWords hw).1.ne_nil
  joined_eq_filter := by
    rw [joined_breakWords]
    apply List.filter_congr
    intro c _
    by_cases hc : CharClass.of c = .separator <;> simp [isWordChar, hc]
  joined_eq_self := by
    intro h
    rw [joined_breakWords, List.filter_eq_self]
    intro c hc
    simpa [isWordChar] using h c hc

example : (pieces "__getIOStream2D".toList).map String.ofList =
    ["", "", "get", "IO", "Stream", "2", "D"] := by cbv

/-- A name whose characters take one, two, three and four bytes. -/
def mixedBytes : Text := "_IOßtrom٣_URL𐐀𐐨中".toList

/-- The last capital of a run of capitals starts a word, whether the small letter behind it takes two
bytes or four. -/
theorem breaks_breakWords_mixedBytes :
    breakWords mixedBytes =
      [ofText ['I'], ofText "Oßtrom".toList, ofText ['٣'], ofText "URL".toList,
        ofText "𐐀𐐨中".toList] ∧
    (Words.ofText mixedBytes).Yields (.ok (breakWords mixedBytes)) ∧
    joined (breakWords mixedBytes) = "IOßtrom٣URL𐐀𐐨中".toList := by
  have h := breaks_breakWords mixedBytes
  have hpieces : (pieces mixedBytes).filter (· ≠ []) = ["I".toList, "Oßtrom".toList, "٣".toList,
      "URL".toList, "𐐀𐐨中".toList] := by decide +kernel
  refine ⟨?_, (h.yields_iff _).2 rfl, ?_⟩
  · rw [h.eq_pieces, hpieces]
    rfl
  · rw [h.joined_eq_filter]
    decide +kernel

end Nomenclator.Word
