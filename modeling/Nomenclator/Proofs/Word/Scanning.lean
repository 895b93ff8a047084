import Nomenclator.Proofs.Word.Boundary
import Nomenclator.Word.Scanning

/-!
# The scan by offset finds the words

A cursor stands between two characters: its name is a front and a rest, and its offset is the size of
the front. From such a place every scan ends at such a place (`runEnd_eq`, `wordEnd_eq`), so nothing is
sliced within a character, and the next word of the cursor is the next word of the rest
(`next_of_none`, `next_of_some`). The cursor then stands behind that word.

Main statement: `yields_ofText_iff`, by induction along the words of the name.
-/

namespace Nomenclator.Words

open Text Word

variable {s : Words} {front rest : Text}

theorem find?_class_ne (cls : CharClass) (t : Text) :
    t.charIndices.find? (fun (_, c) => CharClass.of c != cls) =
      (afterRun cls t).head?.map fun c => (utf8Size (run cls t), c) :=
  find?_charIndices (fun c => CharClass.of c == cls) t

/-- The run from a place ends behind the characters of the class. -/
theorem runEnd_eq (cls : CharClass) (hname : s.name = front ++ rest) :
    s.runEnd (utf8Size front) cls = .ok (utf8Size (front ++ run cls rest)) := by
  have hcut : run cls rest ++ afterRun cls rest = rest := run_append_afterRun cls rest
  simp only [runEnd, hname, sliceFrom_append, OffBoundary.ok_bind, find?_class_ne]
  cases hafter : afterRun cls rest with
  | nil =>
    -- The run goes on to the end of the name.
    rw [hafter, List.append_nil] at hcut
    rw [hcut]
    rfl
  | cons c t =>
    rw [utf8Size_append front (run cls rest)]
    rfl

/-- The run from a character of the class has that character in front. -/
theorem runEnd_cons {cls : CharClass} {c : Char} {t : Text} (hc : CharClass.of c = cls)
    (hname : s.name = front ++ c :: t) :
    s.runEnd (utf8Size front) cls = .ok (utf8Size (front ++ c :: run cls t)) := by
  rw [runEnd_eq cls hname]
  simp [run, hc]

/-- The run from behind a character, of whatever class that one is. -/
theorem runEnd_behind (cls : CharClass) {c : Char} {t : Text} (hname : s.name = front ++ c :: t) :
    s.runEnd (utf8Size front + c.utf8Size) cls = .ok (utf8Size (front ++ c :: run cls t)) := by
  have hone : s.name = (front ++ [c]) ++ t := by simp [hname]
  simpa using runEnd_eq cls hone

/-- A run of capitals, two of them at least, is the word, but for the last capital if a small letter
follows. -/
theorem wordEnd_of_capitals {c last : Char} {init t : Text} (hc : CharClass.of c = .upper)
    (hname : s.name = front ++ c :: t) (hrun : run .upper t = init ++ [last]) :
    s.wordEnd (utf8Size front) c = .ok
      (if startsLower (afterRun .upper t) then utf8Size (front ++ c :: init)
        else utf8Size (front ++ c :: run .upper t)) := by
  have hsize : 0 < last.utf8Size := last.utf8Size_pos
  have hmore : utf8Size (front ++ c :: run .upper t) ≠ utf8Size front + c.utf8Size := by
    rw [hrun]
    simp
    omega
  have hcut : s.name = (front ++ c :: run .upper t) ++ afterRun .upper t := by
    rw [hname, List.append_assoc, List.cons_append, run_append_afterRun]
  simp only [wordEnd, hc, runEnd_cons hc hname, OffBoundary.ok_bind]
  rw [if_neg hmore, hcut, sliceFrom_append]
  simp only [OffBoundary.ok_bind]
  by_cases hlower : startsLower (afterRun .upper t) = true
  · have hfront : front ++ c :: run .upper t = (front ++ c :: init) ++ [last] := by simp [hrun]
    rw [if_pos hlower, if_pos hlower, sliceTo_append]
    simp only [OffBoundary.ok_bind]
    rw [hfront, getLast?_charIndices]
    rfl
  · rw [if_neg hlower, if_neg hlower]
    rfl

/-- A word from a place ends where it is taken. -/
theorem wordEnd_eq {c : Char} {t : Text} (hname : s.name = front ++ c :: t) :
    s.wordEnd (utf8Size front) c = .ok (utf8Size (front ++ (takeWord c t).1)) := by
  cases hc : CharClass.of c with
  | separator => simp [wordEnd, takeWord, hc, pure, Except.pure]
  | digit =>
    simp only [wordEnd, takeWord, hc]
    exact runEnd_cons hc hname
  | lower =>
    simp only [wordEnd, takeWord, hc]
    exact runEnd_cons hc hname
  | upper =>
    cases hlast : (run .upper t).getLast? with
    | none =>
      have hnil : run .upper t = [] := List.getLast?_eq_none_iff.1 hlast
      simp only [wordEnd, takeWord, hc, hlast, runEnd_cons hc hname, OffBoundary.ok_bind]
      rw [if_pos (by simp [hnil]), runEnd_behind .lower hname]
    | some last =>
      obtain ⟨init, hinit⟩ : ∃ init, run .upper t = init ++ [last] :=
        List.getLast?_eq_some_iff.1 hlast
      rw [wordEnd_of_capitals hc hname hinit]
      simp only [takeWord, hc, hlast]
      split
      · rw [hinit, List.dropLast_concat]
      · rfl

/-! ## The next word -/

theorem nextWord_eq (t : Text) :
    nextWord t = match afterRun .separator t with
      | [] => none
      | c :: r => some (takeWord c r) := by
  induction t with
  | nil => rfl
  | cons c t ih =>
    by_cases hc : CharClass.of c = .separator
    · have hafter : afterRun .separator (c :: t) = afterRun .separator t := by
        simp [afterRun, hc]
      rw [nextWord, if_pos hc, ih, hafter]
    · have hafter : afterRun .separator (c :: t) = c :: t := by
        simp [afterRun, hc]
      rw [nextWord, if_neg hc, hafter]

/-- A cursor with no word in front of it finds none and stays where it is. -/
theorem next_of_none (hname : s.name = front ++ rest) (hpos : s.pos = utf8Size front)
    (h : nextWord rest = none) : s.next = .ok (none, s) := by
  have hafter : afterRun .separator rest = [] := by
    rw [nextWord_eq] at h
    split at h
    · assumption
    · cases h
  rw [next, hpos, hname, sliceFrom_append]
  simp only [OffBoundary.ok_bind, find?_class_ne]
  rw [hafter]
  rfl

/-- A cursor finds the next word of what is in front of it and moves to the end of that word. -/
theorem next_of_some {w rest' : Text} (hname : s.name = front ++ rest)
    (hpos : s.pos = utf8Size front) (h : nextWord rest = some (w, rest')) :
    ∃ gap, rest = gap ++ w ++ rest' ∧
      s.next = .ok (some (Word.ofText w), { s with pos := utf8Size (front ++ gap ++ w) }) := by
  obtain ⟨c, r, hafter, hword⟩ : ∃ c r, afterRun .separator rest = c :: r ∧
      takeWord c r = (w, rest') := by
    rw [nextWord_eq] at h
    split at h
    · cases h
    · rename_i c r hafter
      exact ⟨c, r, hafter, Option.some.inj h⟩
  have hcut : w ++ rest' = c :: r := by
    have happend := takeWord_append c r
    rwa [hword] at happend
  have hrest : run .separator rest ++ c :: r = rest := by
    rw [← hafter]
    exact run_append_afterRun .separator rest
  have hstart : s.name = (front ++ run .separator rest) ++ c :: r := by
    rw [hname, List.append_assoc, hrest]
  have hslice : s.name = front ++ run .separator rest ++ w ++ rest' := by
    rw [hstart, ← hcut, List.append_assoc _ w]
  refine ⟨run .separator rest, by rw [List.append_assoc, hcut, hrest], ?_⟩
  rw [next, hpos]
  have hfrom : s.name.sliceFrom (utf8Size front) = .ok rest := by
    rw [hname, sliceFrom_append]
  simp only [hfrom, OffBoundary.ok_bind, find?_class_ne, hafter, List.head?_cons, Option.map_some,
    ← utf8Size_append, wordEnd_eq hstart, hword]
  rw [hslice, slice_append]
  rfl

/-! ## All words -/

/-- The run of a cursor along its name: it comes to words until it finds no other, or to a slice that
fails. -/
inductive Yields : Words → Except OffBoundary (List Word) → Prop
  | fails {s : Words} {e : OffBoundary} (h : s.next = .error e) : Yields s (.error e)
  | done {s s' : Words} (h : s.next = .ok (none, s')) : Yields s (.ok [])
  | step {s s' : Words} {w : Word} {out : Except OffBoundary (List Word)}
      (h : s.next = .ok (some w, s')) (hrest : Yields s' out) : Yields s (out.map (w :: ·))

/-- The run comes to one result only. -/
theorem Yields.unique {out out' : Except OffBoundary (List Word)} (h : Yields s out)
    (h' : Yields s out') : out = out' := by
  induction h generalizing out' with
  | fails hnext =>
    cases h' with
    | fails hnext' => rw [hnext] at hnext'; cases hnext'; rfl
    | done hnext' => rw [hnext] at hnext'; cases hnext'
    | step hnext' => rw [hnext] at hnext'; cases hnext'
  | done hnext =>
    cases h' with
    | fails hnext' => rw [hnext] at hnext'; cases hnext'
    | done => rfl
    | step hnext' => rw [hnext] at hnext'; cases hnext'
  | step hnext _ ih =>
    cases h' with
    | fails hnext' => rw [hnext] at hnext'; cases hnext'
    | done hnext' => rw [hnext] at hnext'; cases hnext'
    | step hnext' hrest' =>
      rw [hnext] at hnext'
      cases hnext'
      rw [ih hrest']

/-- From a place between two characters the run comes to the words of what is in front of it. The
induction is on the length of that, which every word makes shorter. -/
theorem yields_breakWords (hname : s.name = front ++ rest) (hpos : s.pos = utf8Size front) :
    Yields s (.ok (breakWords rest)) := by
  induction hn : rest.length using Nat.strongRecOn generalizing s front rest with
  | ind n ih =>
    subst hn
    cases h : nextWord rest with
    | none =>
      rw [breakWords_of_none h]
      exact Yields.done (next_of_none hname hpos h)
    | some p =>
      obtain ⟨w, rest'⟩ := p
      obtain ⟨gap, rfl, hnext⟩ := next_of_some hname hpos h
      have hbehind : s.name = (front ++ gap ++ w) ++ rest' := by simp [hname]
      have hrest : Yields { s with pos := utf8Size (front ++ gap ++ w) } (.ok (breakWords rest')) :=
        ih rest'.length (length_rest_lt h) hbehind rfl rfl
      rw [breakWords_of_some h]
      exact Yields.step hnext hrest

/-- The run from the front of a name ends without a failure, and with the words of the name. -/
theorem yields_ofText_iff {t : Text} {out : Except OffBoundary (List Word)} :
    Yields (ofText t) out ↔ out = .ok (breakWords t) := by
  have hname : (ofText t).name = [] ++ t := rfl
  have hrun : Yields (ofText t) (.ok (breakWords t)) := yields_breakWords hname rfl
  constructor
  · intro h
    exact h.unique hrun
  · rintro rfl
    exact hrun

/-- From within a character there is no such run. -/
example : Yields ⟨"ß".toList, 1⟩ (.error ⟨1⟩) := .fails rfl

end Nomenclator.Words
