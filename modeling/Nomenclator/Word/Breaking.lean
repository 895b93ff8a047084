import Nomenclator.Unicode.Numeric
import Nomenclator.Word.Basic

/-!
# Breaking a name into words

A name is read from the left, one word at a time. Separators are passed over. A run of digits is a
word, and so is a run of small letters. A capital starts a word: alone it takes the small letters
behind it (`Stream`); a run of capitals is a word of its own, except that its last capital starts
the next word when a small letter follows (`IOStream` is `IO` and `Stream`).

Main definitions:

* `nextWord` finds the next word and what is left of the name behind it;
* `breakWords` finds all of them.

Main statement: `joined_breakWords` says that the words hold all characters of the name but the
separators, in order.
-/

namespace Nomenclator

/-- What a character is to the word breaker. -/
inductive CharClass
  | upper
  | lower
  | digit
  | separator
  deriving DecidableEq, Repr

/-- A capital, another letter, a numeral, or none of these. -/
def CharClass.of (c : Char) : CharClass :=
  if Unicode.isUppercase c then .upper
  else if Unicode.isAlphabetic c then .lower
  else if Unicode.isNumeric c then .digit
  else .separator

namespace Word

/-- The characters of one class at the front of a text. -/
def run (cls : CharClass) (t : Text) : Text := t.takeWhile fun c => CharClass.of c == cls

/-- The text behind the run of one class at its front. -/
def afterRun (cls : CharClass) (t : Text) : Text := t.dropWhile fun c => CharClass.of c == cls

/-- The text starts with a small letter. -/
def startsLower : Text → Bool
  | [] => false
  | c :: _ => CharClass.of c == .lower

/-- The word that starts with the character `c`, which is no separator, and the text behind it. -/
def takeWord (c : Char) (t : Text) : Text × Text :=
  match CharClass.of c with
  | .separator => ([c], t)
  | .digit => (c :: run .digit t, afterRun .digit t)
  | .lower => (c :: run .lower t, afterRun .lower t)
  | .upper =>
    match (run .upper t).getLast? with
    | none => (c :: run .lower t, afterRun .lower t)
    | some last =>
      if startsLower (afterRun .upper t) then
        (c :: (run .upper t).dropLast, last :: afterRun .upper t)
      else (c :: run .upper t, afterRun .upper t)

/-- The first word of a text and the text behind it, if there is a word. -/
def nextWord : Text → Option (Text × Text)
  | [] => none
  | c :: t => if CharClass.of c = .separator then nextWord t else some (takeWord c t)

theorem run_append_afterRun (cls : CharClass) (t : Text) : run cls t ++ afterRun cls t = t :=
  List.takeWhile_append_dropWhile

/-- Taking a word cuts the text in two. -/
theorem takeWord_append (c : Char) (t : Text) :
    (takeWord c t).1 ++ (takeWord c t).2 = c :: t := by
  unfold takeWord
  split
  · rfl
  · simp [run_append_afterRun]
  · simp [run_append_afterRun]
  · split
    · simp [run_append_afterRun]
    · rename_i last hlast
      split
      · obtain ⟨front, hrun⟩ : ∃ front, run .upper t = front ++ [last] :=
          List.getLast?_eq_some_iff.1 hlast
        have ht := run_append_afterRun .upper t
        rw [hrun] at ht
        rw [hrun, List.dropLast_concat]
        simpa using ht
      · simp [run_append_afterRun]

theorem takeWord_ne_nil (c : Char) (t : Text) : (takeWord c t).1 ≠ [] := by
  unfold takeWord
  repeat' split
  all_goals simp

/-- What is left behind a word is shorter than the text was. -/
theorem length_rest_lt {t w rest : Text} (h : nextWord t = some (w, rest)) :
    rest.length < t.length := by
  induction t with
  | nil => simp [nextWord] at h
  | cons c t ih =>
    simp only [nextWord] at h
    split at h
    · exact Nat.lt_succ_of_lt (ih h)
    · have hcut := congrArg List.length (takeWord_append c t)
      have hpos := List.length_pos_iff.2 (takeWord_ne_nil c t)
      rw [Option.some.inj h, List.length_append, List.length_cons] at hcut
      rw [Option.some.inj h] at hpos
      simp only [List.length_cons] at hcut hpos ⊢
      omega

/-- All words of a name, in order. -/
def breakWords (t : Text) : List Word :=
  match h : nextWord t with
  | none => []
  | some (w, rest) =>
    have : rest.length < t.length := length_rest_lt h
    ofText w :: breakWords rest
termination_by t.length

theorem breakWords_of_none {t : Text} (h : nextWord t = none) : breakWords t = [] := by
  rw [breakWords]
  split
  · rfl
  · rename_i h'
    rw [h] at h'
    cases h'

theorem breakWords_of_some {t w rest : Text} (h : nextWord t = some (w, rest)) :
    breakWords t = ofText w :: breakWords rest := by
  rw [breakWords]
  split
  · rename_i h'
    rw [h] at h'
    cases h'
  · rename_i h'
    rw [h] at h'
    cases h'
    rfl

/-- The character belongs to some word. -/
def isWordChar (c : Char) : Bool := CharClass.of c != .separator

theorem of_mem_run {cls : CharClass} {t : Text} {c : Char} (h : c ∈ run cls t) :
    CharClass.of c = cls := by
  simpa using List.all_eq_true.1 (List.all_takeWhile (p := fun d => CharClass.of d == cls)) c h

/-- A taken word holds no separator, unless it starts with one. -/
theorem isWordChar_of_mem_takeWord {c : Char} {t : Text} (hc : CharClass.of c ≠ .separator)
    {d : Char} (hd : d ∈ (takeWord c t).1) : isWordChar d = true := by
  have key : ∀ cls : CharClass, cls ≠ .separator → ∀ l : Text, (∀ x ∈ l, x ∈ run cls t) →
      d ∈ c :: l → isWordChar d = true := by
    intro cls hcls l hl hmem
    rcases List.mem_cons.1 hmem with rfl | hmem
    · simpa [isWordChar] using hc
    · simpa [isWordChar, of_mem_run (hl d hmem)] using hcls
  unfold takeWord at hd
  split at hd
  · rename_i h
    exact absurd h hc
  · exact key .digit (by decide) _ (fun _ h => h) hd
  · exact key .lower (by decide) _ (fun _ h => h) hd
  · split at hd
    · exact key .lower (by decide) _ (fun _ h => h) hd
    · split at hd
      · exact key .upper (by decide) _ (fun _ h => (List.dropLast_sublist _).subset h) hd
      · exact key .upper (by decide) _ (fun _ h => h) hd

theorem filter_eq_of_nextWord_none {t : Text} (h : nextWord t = none) :
    t.filter isWordChar = [] := by
  induction t with
  | nil => rfl
  | cons c t ih =>
    simp only [nextWord] at h
    split at h
    · rename_i hc
      simp [isWordChar, hc, ih h]
    · cases h

theorem filter_eq_of_nextWord_some {t w rest : Text} (h : nextWord t = some (w, rest)) :
    t.filter isWordChar = w ++ rest.filter isWordChar := by
  induction t with
  | nil => simp [nextWord] at h
  | cons c t ih =>
    simp only [nextWord] at h
    split at h
    · rename_i hc
      rw [← ih h]
      simp [isWordChar, hc]
    · rename_i hc
      have hcut := takeWord_append c t
      have hall : ∀ d ∈ (takeWord c t).1, isWordChar d = true :=
        fun d hd => isWordChar_of_mem_takeWord hc hd
      rw [Option.some.inj h] at hcut hall
      rw [← hcut, List.filter_append, List.filter_eq_self.2 hall]

/-- The words of a name hold its characters in order, less the separators. -/
theorem joined_breakWords (t : Text) : joined (breakWords t) = t.filter isWordChar := by
  induction ht : t.length using Nat.strongRecOn generalizing t with
  | ind n ih =>
    subst ht
    cases h : nextWord t with
    | none => rw [breakWords_of_none h, filter_eq_of_nextWord_none h]; rfl
    | some p =>
      obtain ⟨w, rest⟩ := p
      rw [breakWords_of_some h, filter_eq_of_nextWord_some h,
        ← ih rest.length (length_rest_lt h) rest rfl]
      rfl

end Word

end Nomenclator
