import Nomenclator.Word.Breaking

/-!
# Where words end

The word breaker scans runs of characters, but what it finds can be said locally. A word has one of
four forms (`IsWord`): small letters, numerals, capitals, or one capital with small letters behind
it. Whether a word ends between two neighbours depends on the two and on whether a small letter
follows them (`Cut`).

The two facts below pin the breaker down, and everything later is derived from them without opening
it again:

* `isWord_takeWord` and `endsBefore_takeWord`: what is taken has one of the forms and ends at a cut;
* `takeWord_of_isWord`: a text of one of the forms in front of a cut is taken.

`breakWords_induction` is the induction along the words of a name, and `breakWords_ne_nil_iff` says which
names have words at all.
-/

namespace Nomenclator.Word

/-! ## Forms and cuts -/

/-- The forms of a word: characters of one class, or a capital with small letters behind it. -/
def IsWord : Text → Prop
  | [] => False
  | c :: t =>
    CharClass.of c ≠ .separator ∧
      ((∀ d ∈ t, CharClass.of d = CharClass.of c) ∨
        (CharClass.of c = .upper ∧ ∀ d ∈ t, CharClass.of d = .lower))

/-- A word that ends with `a` ends there if `b` comes next, with `t` behind it. -/
def Cut (a b : Char) (t : Text) : Prop :=
  (CharClass.of a ≠ CharClass.of b ∧ ¬ (CharClass.of a = .upper ∧ CharClass.of b = .lower)) ∨
    (CharClass.of a = .upper ∧ CharClass.of b = .upper ∧ startsLower t = true)

/-- The word ends where the rest begins. -/
def EndsBefore (w rest : Text) : Prop :=
  ∀ a ∈ w.getLast?, ∀ b t, rest = b :: t → Cut a b t

theorem endsBefore_nil (w : Text) : EndsBefore w [] := by
  intro a _ b t h
  cases h

theorem IsWord.ne_nil {w : Text} (h : IsWord w) : w ≠ [] := by
  rintro rfl
  exact h

/-- No character of a word is a separator. -/
theorem IsWord.class_ne_separator {w : Text} (h : IsWord w) {c : Char} (hc : c ∈ w) :
    CharClass.of c ≠ .separator := by
  cases w with
  | nil => exact h.elim
  | cons d t =>
    obtain ⟨hd, hall⟩ := h
    rcases List.mem_cons.1 hc with rfl | hc
    · exact hd
    · rcases hall with hsame | ⟨-, hlower⟩
      · rw [hsame c hc]
        exact hd
      · rw [hlower c hc]
        decide

/-- A word of one form ends in front of a separator. -/
theorem endsBefore_separator {w : Text} (hw : IsWord w) {c : Char} {t : Text}
    (hc : CharClass.of c = .separator) : EndsBefore w (c :: t) := by
  intro a ha b t' h
  cases h
  have hne := hw.class_ne_separator (List.mem_of_getLast? ha)
  exact Or.inl ⟨by rwa [hc], by simp [hc]⟩

/-! ## Runs -/

theorem run_eq_nil {cls : CharClass} {t : Text}
    (h : ∀ b r, t = b :: r → CharClass.of b ≠ cls) : run cls t = [] := by
  cases t with
  | nil => rfl
  | cons b r => simp [run, h b r rfl]

theorem afterRun_eq_self {cls : CharClass} {t : Text}
    (h : ∀ b r, t = b :: r → CharClass.of b ≠ cls) : afterRun cls t = t := by
  cases t with
  | nil => rfl
  | cons b r => simp [afterRun, h b r rfl]

theorem run_append {cls : CharClass} {w : Text} (hw : ∀ d ∈ w, CharClass.of d = cls) (t : Text) :
    run cls (w ++ t) = w ++ run cls t := by
  induction w with
  | nil => rfl
  | cons c w ih =>
    have hc : CharClass.of c = cls := hw c List.mem_cons_self
    have htail := ih fun d hd => hw d (List.mem_cons_of_mem c hd)
    simp only [run] at htail
    simp [run, hc, htail]

theorem afterRun_append {cls : CharClass} {w : Text} (hw : ∀ d ∈ w, CharClass.of d = cls)
    (t : Text) : afterRun cls (w ++ t) = afterRun cls t := by
  induction w with
  | nil => rfl
  | cons c w ih =>
    have hc : CharClass.of c = cls := hw c List.mem_cons_self
    have htail := ih fun d hd => hw d (List.mem_cons_of_mem c hd)
    simp only [afterRun] at htail
    simp [afterRun, hc, htail]

/-- The text behind a run does not go on with the class of the run. -/
theorem class_ne_of_afterRun {cls : CharClass} {t r : Text} {b : Char}
    (h : afterRun cls t = b :: r) : CharClass.of b ≠ cls := by
  induction t with
  | nil => cases h
  | cons c t ih =>
    by_cases hc : CharClass.of c = cls
    · exact ih (by simpa [afterRun, hc] using h)
    · have hcons : c :: t = b :: r := by simpa [afterRun, hc] using h
      cases hcons
      exact hc

theorem startsLower_eq_false {t : Text} (h : ∀ b r, t = b :: r → CharClass.of b ≠ .lower) :
    startsLower t = false := by
  cases t with
  | nil => rfl
  | cons b r => simpa [startsLower] using h b r rfl

/-! ## What is taken -/

theorem isWord_cons_same {cls : CharClass} {c : Char} {t : Text} (hcls : cls ≠ .separator)
    (hc : CharClass.of c = cls) (ht : ∀ d ∈ t, CharClass.of d = cls) : IsWord (c :: t) :=
  ⟨by rwa [hc], Or.inl fun d hd => by rw [ht d hd, hc]⟩

/-- What is taken has one of the forms of a word. -/
theorem isWord_takeWord {c : Char} (hc : CharClass.of c ≠ .separator) (t : Text) :
    IsWord (takeWord c t).1 := by
  unfold takeWord
  split
  · rename_i h
    exact absurd h hc
  · rename_i h
    exact isWord_cons_same (by decide) h fun d hd => of_mem_run hd
  · rename_i h
    exact isWord_cons_same (by decide) h fun d hd => of_mem_run hd
  · rename_i h
    split
    · exact ⟨hc, Or.inr ⟨h, fun d hd => of_mem_run hd⟩⟩
    · split
      · refine isWord_cons_same (by decide) h fun d hd => ?_
        exact of_mem_run ((List.dropLast_sublist _).subset hd)
      · exact isWord_cons_same (by decide) h fun d hd => of_mem_run hd

/-- A word ends before a change of class, unless a small letter follows a capital. -/
theorem endsBefore_of_class {cls : CharClass} {w rest : Text}
    (hw : ∀ a ∈ w.getLast?, CharClass.of a = cls)
    (hrest : ∀ b r, rest = b :: r →
      CharClass.of b ≠ cls ∧ (cls = .upper → CharClass.of b ≠ .lower)) :
    EndsBefore w rest := by
  intro a ha b r hr
  obtain ⟨hne, hlower⟩ := hrest b r hr
  have hclass := hw a ha
  refine Or.inl ⟨by rw [hclass]; exact hne.symm, ?_⟩
  rintro ⟨hupper, hb⟩
  exact hlower (hclass.symm.trans hupper) hb

theorem class_of_getLast?_cons {cls : CharClass} {c : Char} {t : Text}
    (hc : CharClass.of c = cls) (ht : ∀ d ∈ t, CharClass.of d = cls) :
    ∀ a ∈ (c :: t).getLast?, CharClass.of a = cls := by
  intro a ha
  rcases List.mem_cons.1 (List.mem_of_getLast? ha) with rfl | hmem
  · exact hc
  · exact ht a hmem

/-- A capital with the small letters behind it ends at a cut, if no capital follows it. -/
theorem endsBefore_capital {c : Char} {t : Text} (hc : CharClass.of c = .upper)
    (ht : run .upper t = []) : EndsBefore (c :: run .lower t) (afterRun .lower t) := by
  by_cases hnil : run .lower t = []
  · have hself : afterRun .lower t = t := by
      simpa [hnil] using run_append_afterRun .lower t
    rw [hnil]
    refine endsBefore_of_class (class_of_getLast?_cons hc (by simp)) fun b r hr => ?_
    refine ⟨?_, fun _ => class_ne_of_afterRun hr⟩
    intro hb
    rw [← hself, hr] at ht
    simp [run, hb] at ht
  · have hsmall : ∀ a ∈ (c :: run .lower t).getLast?, CharClass.of a = .lower := by
      intro a ha
      rw [List.getLast?_cons_of_ne_nil hnil] at ha
      exact of_mem_run (List.mem_of_getLast? ha)
    exact endsBefore_of_class hsmall fun b r hr =>
      ⟨class_ne_of_afterRun hr, fun h => by cases h⟩

/-- A run of capitals ends at a cut in front of its last one, if a small letter follows it. -/
theorem endsBefore_last_capital {c last : Char} {t : Text} (hc : CharClass.of c = .upper)
    (hlast : (run .upper t).getLast? = some last) (hlower : startsLower (afterRun .upper t) = true) :
    EndsBefore (c :: (run .upper t).dropLast) (last :: afterRun .upper t) := by
  intro a ha b r hr
  cases hr
  refine Or.inr ⟨class_of_getLast?_cons hc (fun d hd => ?_) a ha, ?_, hlower⟩
  · exact of_mem_run ((List.dropLast_sublist _).subset hd)
  · exact of_mem_run (List.mem_of_getLast? hlast)

/-- What is taken ends at a cut. -/
theorem endsBefore_takeWord {c : Char} (hc : CharClass.of c ≠ .separator) (t : Text) :
    EndsBefore (takeWord c t).1 (takeWord c t).2 := by
  unfold takeWord
  split
  · rename_i h
    exact absurd h hc
  · rename_i h
    exact endsBefore_of_class (class_of_getLast?_cons h fun d hd => of_mem_run hd)
      fun b r hr => ⟨class_ne_of_afterRun hr, fun h => by cases h⟩
  · rename_i h
    exact endsBefore_of_class (class_of_getLast?_cons h fun d hd => of_mem_run hd)
      fun b r hr => ⟨class_ne_of_afterRun hr, fun h => by cases h⟩
  · rename_i h
    split
    · rename_i hrun
      exact endsBefore_capital h (List.getLast?_eq_none_iff.1 hrun)
    · rename_i last hlast
      split
      · rename_i hlower
        exact endsBefore_last_capital h hlast hlower
      · rename_i hlower
        refine endsBefore_of_class (class_of_getLast?_cons h fun d hd => of_mem_run hd) ?_
        intro b r hr
        refine ⟨class_ne_of_afterRun hr, fun _ hb => hlower ?_⟩
        rw [show afterRun .upper t = b :: r from hr]
        simp [startsLower, hb]

/-! ## What can be taken -/

theorem exists_getLast?_cons {cls : CharClass} {c : Char} {t : Text} (hc : CharClass.of c = cls)
    (ht : ∀ d ∈ t, CharClass.of d = cls) : ∃ a ∈ (c :: t).getLast?, CharClass.of a = cls :=
  ⟨_, List.getLast?_eq_some_getLast (List.cons_ne_nil c t),
    class_of_getLast?_cons hc ht _ (List.getLast?_eq_some_getLast (List.cons_ne_nil c t))⟩

/-- Behind a word that ends with a small letter or a numeral comes another class. -/
theorem EndsBefore.class_ne {cls : CharClass} {w rest : Text} (h : EndsBefore w rest)
    (hcls : cls ≠ .upper) (hw : ∃ a ∈ w.getLast?, CharClass.of a = cls) :
    ∀ b r, rest = b :: r → CharClass.of b ≠ cls := by
  obtain ⟨a, ha, hclass⟩ := hw
  intro b r hr hb
  rcases h a ha b r hr with hne | hupper
  · exact hne.1 (hclass.trans hb.symm)
  · exact hcls (hclass.symm.trans hupper.1)

/-- Behind a word that ends with a capital comes no letter, or a capital that starts a word of small
letters. -/
theorem EndsBefore.after_capital {w rest : Text} (h : EndsBefore w rest)
    (hw : ∃ a ∈ w.getLast?, CharClass.of a = .upper) :
    (∀ b r, rest = b :: r → CharClass.of b ≠ .upper ∧ CharClass.of b ≠ .lower) ∨
      ∃ b r, rest = b :: r ∧ CharClass.of b = .upper ∧ startsLower r = true := by
  obtain ⟨a, ha, hclass⟩ := hw
  cases rest with
  | nil => exact Or.inl fun b r hr => by cases hr
  | cons b r =>
    rcases h a ha b r rfl with hne | hupper
    · refine Or.inl fun b' r' hr => ?_
      cases hr
      exact ⟨fun hb => hne.1 (hclass.trans hb.symm), fun hb => hne.2 ⟨hclass, hb⟩⟩
    · exact Or.inr ⟨b, r, rfl, hupper.2⟩

/-- Where no letter comes next, the run of capitals is the word. -/
theorem takeWord_capitals_of_no_letter {c : Char} {w rest : Text} (hc : CharClass.of c = .upper)
    (hw : ∀ d ∈ w, CharClass.of d = .upper)
    (hrest : ∀ b r, rest = b :: r → CharClass.of b ≠ .upper ∧ CharClass.of b ≠ .lower) :
    takeWord c (w ++ rest) = (c :: w, rest) := by
  have hupper : ∀ b r, rest = b :: r → CharClass.of b ≠ .upper := fun b r hr => (hrest b r hr).1
  have hlower : ∀ b r, rest = b :: r → CharClass.of b ≠ .lower := fun b r hr => (hrest b r hr).2
  have hrun : run .upper (w ++ rest) = w := by
    rw [run_append hw, run_eq_nil hupper, List.append_nil]
  have hafter : afterRun .upper (w ++ rest) = rest := by
    rw [afterRun_append hw, afterRun_eq_self hupper]
  cases w with
  | nil =>
    simp only [List.nil_append] at hrun ⊢
    simp [takeWord, hc, hrun, run_eq_nil hlower, afterRun_eq_self hlower]
  | cons d w =>
    have hlast := List.getLast?_eq_some_getLast (List.cons_ne_nil d w)
    rw [List.cons_append] at hrun hafter ⊢
    simp [takeWord, hc, hrun, hafter, hlast, startsLower_eq_false hlower]

/-- Where a capital comes next that small letters follow, it is in the run and is given back. -/
theorem takeWord_capitals_of_capital {c b : Char} {w r : Text} (hc : CharClass.of c = .upper)
    (hw : ∀ d ∈ w, CharClass.of d = .upper) (hb : CharClass.of b = .upper)
    (hlower : startsLower r = true) : takeWord c (w ++ b :: r) = (c :: w, b :: r) := by
  have hr : ∀ e r', r = e :: r' → CharClass.of e ≠ .upper := by
    rintro e r' rfl he
    simp [startsLower, he] at hlower
  have hall : ∀ d ∈ w ++ [b], CharClass.of d = .upper := by
    intro d hd
    rcases List.mem_append.1 hd with hd | hd
    · exact hw d hd
    · rw [List.mem_singleton.1 hd]
      exact hb
  have hrun : run .upper (w ++ b :: r) = w ++ [b] := by
    rw [List.append_cons, run_append hall, run_eq_nil hr, List.append_nil]
  have hafter : afterRun .upper (w ++ b :: r) = r := by
    rw [List.append_cons, afterRun_append hall, afterRun_eq_self hr]
  simp [takeWord, hc, hrun, hafter, hlower]

/-- Capitals in front of a cut are taken together. -/
theorem takeWord_capitals {c : Char} {w rest : Text} (hc : CharClass.of c = .upper)
    (hw : ∀ d ∈ w, CharClass.of d = .upper) (hcut : EndsBefore (c :: w) rest) :
    takeWord c (w ++ rest) = (c :: w, rest) := by
  rcases hcut.after_capital (exists_getLast?_cons hc hw) with hrest | ⟨b, r, rfl, hb, hlower⟩
  · exact takeWord_capitals_of_no_letter hc hw hrest
  · exact takeWord_capitals_of_capital hc hw hb hlower

/-- A text of one of the forms of a word is taken, if it stands in front of a cut. -/
theorem takeWord_of_isWord {c : Char} {w rest : Text} (hw : IsWord (c :: w))
    (hcut : EndsBefore (c :: w) rest) : takeWord c (w ++ rest) = (c :: w, rest) := by
  obtain ⟨hc, hsame | ⟨hupper, hlower⟩⟩ := hw
  · cases hclass : CharClass.of c with
    | separator => exact absurd hclass hc
    | upper => exact takeWord_capitals hclass (by simpa [hclass] using hsame) hcut
    | lower | digit =>
      rw [hclass] at hsame
      have hrest := hcut.class_ne (by decide) (exists_getLast?_cons hclass hsame)
      simp [takeWord, hclass, run_append hsame, afterRun_append hsame, run_eq_nil hrest,
        afterRun_eq_self hrest]
  · cases w with
    | nil => exact takeWord_capitals hupper (by simp) hcut
    | cons d w =>
      have hrest : ∀ b r, rest = b :: r → CharClass.of b ≠ .lower := by
        refine hcut.class_ne (by decide) ?_
        rw [List.getLast?_cons_of_ne_nil (List.cons_ne_nil d w)]
        exact exists_getLast?_cons (hlower d List.mem_cons_self)
          fun e he => hlower e (List.mem_cons_of_mem d he)
      have hnone : run .upper (d :: (w ++ rest)) = [] := by
        simp [run, hlower d List.mem_cons_self]
      have hrun : run .lower (d :: (w ++ rest)) = d :: w := by
        rw [← List.cons_append, run_append hlower, run_eq_nil hrest, List.append_nil]
      have hafter : afterRun .lower (d :: (w ++ rest)) = rest := by
        rw [← List.cons_append, afterRun_append hlower, afterRun_eq_self hrest]
      simp [takeWord, hupper, hnone, hrun, hafter]

/-! ## All words -/

@[simp] theorem breakWords_nil : breakWords [] = [] := breakWords_of_none rfl

/-- A separator in front of a name is in no word. -/
theorem breakWords_separator_cons {c : Char} (hc : CharClass.of c = .separator) (t : Text) :
    breakWords (c :: t) = breakWords t := by
  have hskip : nextWord (c :: t) = nextWord t := by simp [nextWord, hc]
  cases h : nextWord t with
  | none => rw [breakWords_of_none h, breakWords_of_none (hskip.trans h)]
  | some p => rw [breakWords_of_some h, breakWords_of_some (hskip.trans h)]

theorem breakWords_separators_append {s : Text} (hs : ∀ c ∈ s, CharClass.of c = .separator)
    (t : Text) : breakWords (s ++ t) = breakWords t := by
  induction s with
  | nil => rfl
  | cons c s ih =>
    rw [List.cons_append, breakWords_separator_cons (hs c List.mem_cons_self)]
    exact ih fun d hd => hs d (List.mem_cons_of_mem c hd)

/-- A word in front of a cut is the first word of the name. -/
theorem breakWords_append {w rest : Text} (hw : IsWord w) (hcut : EndsBefore w rest) :
    breakWords (w ++ rest) = ofText w :: breakWords rest := by
  cases w with
  | nil => exact hw.elim
  | cons c w =>
    have htake := takeWord_of_isWord hw hcut
    have hnext : nextWord (c :: w ++ rest) = some (c :: w, rest) := by
      rw [List.cons_append, nextWord, if_neg hw.1, htake]
    exact breakWords_of_some hnext

/-- A word is broken into itself. -/
theorem breakWords_of_isWord {w : Text} (hw : IsWord w) : breakWords w = [ofText w] := by
  simpa using breakWords_append hw (endsBefore_nil w)

/-- Induction along a name: past the separators, and past a word that ends at a cut. -/
theorem breakWords_induction {motive : Text → Prop} (nil : motive [])
    (separator : ∀ c t, CharClass.of c = .separator → motive t → motive (c :: t))
    (word : ∀ w rest, IsWord w → EndsBefore w rest → motive rest → motive (w ++ rest))
    (t : Text) : motive t := by
  induction hn : t.length using Nat.strongRecOn generalizing t with
  | ind n ih =>
    subst hn
    cases t with
    | nil => exact nil
    | cons c t =>
      by_cases hc : CharClass.of c = .separator
      · exact separator c t hc (ih t.length (by simp) t rfl)
      · have hcut := takeWord_append c t
        have hpos := List.length_pos_iff.2 (takeWord_ne_nil c t)
        have hlen := congrArg List.length hcut
        rw [List.length_append] at hlen
        rw [← hcut]
        exact word _ _ (isWord_takeWord hc t) (endsBefore_takeWord hc t)
          (ih (takeWord c t).2.length (by omega) _ rfl)

/-- Every word that is found has one of the forms, and is marked by its own spelling. -/
theorem isWord_of_mem_breakWords {t : Text} {w : Word} (h : w ∈ breakWords t) :
    IsWord w.text ∧ w = ofText w.text := by
  induction t using breakWords_induction with
  | nil => simp at h
  | separator c t hc ih => exact ih (by rwa [breakWords_separator_cons hc] at h)
  | word u rest hu hcut ih =>
    rw [breakWords_append hu hcut] at h
    rcases List.mem_cons.1 h with rfl | h
    · exact ⟨hu, rfl⟩
    · exact ih h

/-- The characters of the words of a name are characters of the name. -/
theorem mem_of_mem_breakWords {t : Text} {w : Word} (h : w ∈ breakWords t) {c : Char}
    (hc : c ∈ w.text) : c ∈ t := by
  have hjoined : c ∈ joined (breakWords t) := List.mem_flatMap.2 ⟨w, h, hc⟩
  rw [joined_breakWords] at hjoined
  exact (List.mem_filter.1 hjoined).1

/-- A name has words if it has a character that belongs to one. -/
theorem breakWords_ne_nil_iff {t : Text} :
    breakWords t ≠ [] ↔ ∃ c ∈ t, isWordChar c = true := by
  constructor
  · intro h
    obtain ⟨w, ws, hwords⟩ := List.exists_cons_of_ne_nil h
    have hw : w ∈ breakWords t := by simp [hwords]
    have hword := (isWord_of_mem_breakWords hw).1
    obtain ⟨c, hc⟩ := List.exists_mem_of_ne_nil w.text hword.ne_nil
    exact ⟨c, mem_of_mem_breakWords hw hc, by simpa [isWordChar] using hword.class_ne_separator hc⟩
  · rintro ⟨c, hc, hchar⟩ hnil
    have hmem : c ∈ t.filter isWordChar := List.mem_filter.2 ⟨hc, hchar⟩
    rw [← joined_breakWords, hnil] at hmem
    cases hmem

/-- Words with separators between them are broken into just these words. -/
theorem breakWords_joinWith {sep : Text} (hne : sep ≠ [])
    (hsep : ∀ c ∈ sep, CharClass.of c = .separator) {ws : List Text} (hws : ∀ w ∈ ws, IsWord w) :
    breakWords (Text.joinWith sep ws) = ws.map ofText := by
  induction ws with
  | nil => simp [Text.joinWith]
  | cons w ws ih =>
    have hw : IsWord w := hws w List.mem_cons_self
    cases ws with
    | nil => simpa [Text.joinWith] using breakWords_of_isWord hw
    | cons v ws =>
      obtain ⟨c, sep', rfl⟩ := List.exists_cons_of_ne_nil hne
      have hcut : EndsBefore w (c :: sep' ++ Text.joinWith (c :: sep') (v :: ws)) :=
        endsBefore_separator hw (hsep c List.mem_cons_self)
      rw [Text.joinWith, List.append_assoc, breakWords_append hw hcut,
        breakWords_separators_append hsep, ih fun u hu => hws u (List.mem_cons_of_mem w hu)]
      rfl

end Nomenclator.Word
