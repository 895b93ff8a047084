import Nomenclator.Proofs.Word.Boundary
import Mathlib.Data.List.Chain

/-!
# Breaking some words of a name again

Whether a word of capitals ends depends on the character behind the next one, so it is not plain that
words taken out of a name stay the same words. They do: whether a word ends in front of another is
settled by the two of them, whatever comes behind (`endsBefore_append_iff`). So the words of a name
without separators are a chain in which each ends before the next (`chained_breakWords`), neighbours in
a chain are a chain, and the words of a chain are found again in their spellings in a row
(`Chained.breakWords_joined`).

Main statement: `breakWords_neighbours` says that neighbouring words of a name are found again, with
separators between them or, if the name has no separators, without.
-/

namespace Nomenclator.Word

/-! ## Words that end before a word -/

theorem endsBefore_cons_iff {w : Text} {b : Char} {t : Text} :
    EndsBefore w (b :: t) ↔ ∀ a ∈ w.getLast?, Cut a b t := by
  constructor
  · intro h a ha
    exact h a ha b t rfl
  · intro h a ha b' t' hcons
    cases hcons
    exact h a ha

/-- Behind a single capital that ends as a word comes no small letter. -/
theorem startsLower_of_endsBefore_capital {c : Char} {rest : Text} (hc : CharClass.of c = .upper)
    (hend : EndsBefore [c] rest) : startsLower rest = false := by
  apply startsLower_eq_false
  intro b r hr hb
  rcases hend c rfl b r hr with ⟨-, hnot⟩ | ⟨-, hupper, -⟩
  · exact hnot ⟨hc, hb⟩
  · rw [hb] at hupper
    cases hupper

/-- Whether something ends before a word does not depend on what comes behind the word, if the word ends
there: a small letter behind a first capital belongs to the word. -/
theorem endsBefore_append_iff {u v rest : Text} (hv : IsWord v) (hend : EndsBefore v rest) :
    EndsBefore u (v ++ rest) ↔ EndsBefore u v := by
  obtain ⟨c, t, rfl⟩ := List.exists_cons_of_ne_nil hv.ne_nil
  have hstart : CharClass.of c = .upper → startsLower (t ++ rest) = startsLower t := by
    intro hc
    cases t with
    | nil => simpa [startsLower] using startsLower_of_endsBefore_capital hc hend
    | cons d t => rfl
  have hcut : ∀ a, Cut a c (t ++ rest) ↔ Cut a c t := by
    intro a
    refine or_congr_right (and_congr_right fun _ => and_congr_right fun hc => ?_)
    rw [hstart hc]
  rw [List.cons_append, endsBefore_cons_iff, endsBefore_cons_iff]
  exact forall₂_congr fun a _ => hcut a

/-! ## Chains of words -/

/-- The words are words of some names, each marked by its spelling, and each ends before the next. -/
structure Chained (ws : List Word) : Prop where
  isWord : ∀ w ∈ ws, IsWord w.text ∧ w = ofText w.text
  endsBefore : ws.IsChain fun u v => EndsBefore u.text v.text

variable {t : Text} {w : Word} {g ws : List Word}

theorem Chained.tail (h : Chained (w :: ws)) : Chained ws where
  isWord := fun v hv => h.isWord v (List.mem_cons_of_mem w hv)
  endsBefore := h.endsBefore.tail

theorem Chained.neighbours (h : Chained ws) (hg : g <:+: ws) : Chained g := by
  obtain ⟨front, back, rfl⟩ := hg
  refine ⟨fun w hw => h.isWord w (by simp [hw]), ?_⟩
  exact h.endsBefore.left_of_append.right_of_append

/-- The first word of a chain ends before the others in a row. The induction is on the others: the next
word ends before those behind it, so it alone decides. -/
theorem Chained.endsBefore_joined (h : Chained (w :: ws)) : EndsBefore w.text (joined ws) := by
  induction ws generalizing w with
  | nil => exact endsBefore_nil w.text
  | cons v ws ih =>
    have hv := (h.isWord v (by simp)).1
    have hnext : EndsBefore w.text v.text := h.endsBefore.rel
    exact (endsBefore_append_iff hv (ih h.tail)).2 hnext

/-- The words of a chain are found again in their spellings in a row. -/
theorem Chained.breakWords_joined (h : Chained ws) : breakWords (joined ws) = ws := by
  induction ws with
  | nil => exact breakWords_nil
  | cons w ws ih =>
    obtain ⟨hw, hself⟩ := h.isWord w List.mem_cons_self
    calc breakWords (w.text ++ joined ws)
        = ofText w.text :: breakWords (joined ws) := breakWords_append hw h.endsBefore_joined
      _ = w :: ws := by rw [← hself, ih h.tail]

/-- The words of a name without separators are a chain. -/
theorem chained_breakWords (ht : ∀ c ∈ t, CharClass.of c ≠ .separator) : Chained (breakWords t) := by
  refine ⟨fun w hw => isWord_of_mem_breakWords hw, ?_⟩
  induction t using breakWords_induction with
  | nil => simp
  | separator c t hc ih => exact absurd hc (ht c List.mem_cons_self)
  | word w rest hw hend ih =>
    have hrest : ∀ c ∈ rest, CharClass.of c ≠ .separator :=
      fun c hc => ht c (List.mem_append_right w hc)
    have hchain := ih hrest
    rw [breakWords_append hw hend, List.isChain_cons]
    refine ⟨fun v hv => ?_, hchain⟩
    -- Nothing of the rest is lost, so it starts with the next word and ends that where its words do.
    obtain ⟨vs, hvs⟩ := List.head?_eq_some_iff.1 hv
    have hjoined : v.text ++ joined vs = rest := by
      have hself : joined (breakWords rest) = rest := by
        rw [joined_breakWords, List.filter_eq_self]
        exact fun c hc => by simpa [isWordChar] using hrest c hc
      rwa [hvs] at hself
    have hchained : Chained (v :: vs) :=
      ⟨fun u hu => isWord_of_mem_breakWords (hvs ▸ hu), hvs ▸ hchain⟩
    rw [← hjoined] at hend
    exact (endsBefore_append_iff (hchained.isWord v List.mem_cons_self).1
      hchained.endsBefore_joined).1 hend

/-! ## Neighbouring words -/

/-- Neighbouring words of a name are found again, with their marks, in their spellings with separators
between them, and, if the name has no separators, in their spellings in a row. -/
theorem breakWords_neighbours (hg : g <:+: breakWords t) :
    (∀ s : Text, s ≠ [] → (∀ c ∈ s, CharClass.of c = .separator) →
      breakWords (Text.joinWith s (g.map text)) = g) ∧
    ((∀ c ∈ t, CharClass.of c ≠ .separator) → breakWords (joined g) = g) := by
  have hwords : ∀ w ∈ g, IsWord w.text ∧ w = ofText w.text :=
    fun w hw => isWord_of_mem_breakWords (hg.subset hw)
  constructor
  · intro s hne hs
    rw [breakWords_joinWith hne hs (List.forall_mem_map.2 fun w hw => (hwords w hw).1), List.map_map]
    calc g.map (ofText ∘ text) = g.map id :=
          List.map_congr_left fun w hw => (hwords w hw).2.symm
      _ = g := List.map_id g
  · intro ht
    exact ((chained_breakWords ht).neighbours hg).breakWords_joined

/-- The words `IO` and `Stream` of `getIOStream2D`. -/
theorem breakWords_neighbours_ioStream :
    let t := "getIOStream2D".toList
    let g := [ofText "IO".toList, ofText "Stream".toList]
    g <:+: breakWords t ∧ (∀ c ∈ t, CharClass.of c ≠ .separator) ∧
      (∀ c ∈ "_-".toList, CharClass.of c = .separator) ∧
      breakWords "IO_-Stream".toList = g ∧ breakWords "IOStream".toList = g := by
  intro t g
  have hg : g <:+: breakWords t :=
    ⟨[ofText "get".toList], [ofText "2".toList, ofText "D".toList], by decide +kernel⟩
  have ht : ∀ c ∈ t, CharClass.of c ≠ .separator := by
    have hall : (t.all fun c => CharClass.of c != .separator) = true := by decide +kernel
    simpa using hall
  have hs : ∀ c ∈ "_-".toList, CharClass.of c = .separator := by
    have hall : ("_-".toList.all fun c => CharClass.of c == .separator) = true := by decide +kernel
    simpa using hall
  obtain ⟨hseparated, hplain⟩ := breakWords_neighbours hg
  exact ⟨hg, ht, hs, hseparated "_-".toList (by decide) hs, hplain ht⟩

/-- Of a name with separators, words in a row may be one word. -/
example : (breakWords (joined (breakWords "a_b".toList))).map text = ["ab".toList] := by
  decide +kernel

end Nomenclator.Word
