import Mathlib.Data.List.Induction
import Nomenclator.Symbol.Modifiers

/-!
# A set of modifiers is what was put into it

A set of modifiers is filled by additions and by collections of lists, in any order and number. Whatever
has been done to it, its members are the modifiers that a change brought and that no later collection
dropped (`ModifierMask.IsBrought`). The set is a row of sixteen bits, and its listing reads off the bits
of modifiers in the order of the vocabulary, which need not be the order in which anything was added.

One change makes a member of what it brings and keeps the others, unless it is a collection
(`contains_change_iff`). What a row of changes brings grows in the same way with its last change
(`isBrought_concat_iff`), and so the two agree after any row of changes
(`contains_changeAll_iff`). That the members tell everything about the bits is for every change to
preserve (`IsClean.change`): the bits that no modifier has are never set (`isClean_changeAll`).

Main statement: `ModifierMask.changeAll_spec`.
-/

namespace Nomenclator

namespace ModifierMask

/-! ## Changes -/

/-- What can be done to a set. -/
inductive Change
  /-- Put a modifier into the set. -/
  | insert (m : Modifier)
  /-- Take a copy with one more member instead. -/
  | adding (m : Modifier)
  /-- Take the set of a list instead. -/
  | collect (ms : List Modifier)
  deriving DecidableEq, Repr

/-- The modifiers that a change brings. -/
def Change.brought : Change → List Modifier
  | .insert m => [m]
  | .adding m => [m]
  | .collect ms => ms

/-- The set after a change. -/
def change (s : ModifierMask) : Change → ModifierMask
  | .insert m => s.insert m
  | .adding m => s.adding m
  | .collect ms => ofList ms

/-- The set after several changes. -/
def changeAll (s : ModifierMask) (cs : List Change) : ModifierMask := cs.foldl change s

theorem changeAll_concat (s : ModifierMask) (cs : List Change) (c : Change) :
    s.changeAll (cs ++ [c]) = (s.changeAll cs).change c := by
  rw [changeAll, changeAll, List.foldl_append, List.foldl_cons, List.foldl_nil]

/-- One of the changes brings the modifier, and behind it nothing is collected. -/
def IsBrought (cs : List Change) (m : Modifier) : Prop :=
  ∃ before c behind, cs = before ++ c :: behind ∧ m ∈ c.brought ∧ ∀ ms, Change.collect ms ∉ behind

/-! ## Members -/

/-- A change keeps the members unless it is a collection. -/
theorem contains_change_iff {s : ModifierMask} {c : Change} {m : Modifier} :
    (s.change c).contains m = true ↔
      m ∈ c.brought ∨ (∀ ms, c ≠ .collect ms) ∧ s.contains m = true := by
  have hone (x : Modifier) : (s.adding x).contains m = true ↔ m ∈ [x] ∨ s.contains m = true := by
    rw [contains_adding, List.mem_singleton, Bool.or_eq_true, decide_eq_true_iff, or_comm, eq_comm]
  cases c with
  | insert x =>
    rw [change, insert_eq_adding, hone, Change.brought]
    simp
  | adding x =>
    rw [change, hone, Change.brought]
    simp
  | collect ms =>
    rw [change, contains_ofList, Change.brought, decide_eq_true_iff]
    simp

theorem not_isBrought_nil (m : Modifier) : ¬ IsBrought [] m := by
  rintro ⟨before, c, behind, heq, -⟩
  simp at heq

theorem isBrought_concat_iff {cs : List Change} {c : Change} {m : Modifier} :
    IsBrought (cs ++ [c]) m ↔ m ∈ c.brought ∨ (∀ ms, c ≠ .collect ms) ∧ IsBrought cs m := by
  constructor
  · rintro ⟨before, d, behind, heq, hm, hbehind⟩
    rcases List.eq_nil_or_concat behind with rfl | ⟨rest, last, rfl⟩
    · obtain ⟨-, hlast⟩ := List.append_inj' heq rfl
      obtain rfl : c = d := List.singleton_inj.1 hlast
      exact Or.inl hm
    · simp only [List.concat_eq_append] at heq hbehind
      rw [← List.cons_append, ← List.append_assoc] at heq
      obtain ⟨rfl, hlast⟩ := List.append_inj' heq rfl
      obtain rfl : c = last := List.singleton_inj.1 hlast
      refine Or.inr ⟨?_, before, d, rest, rfl, hm, fun ms hms => ?_⟩
      · rintro ms rfl
        exact hbehind ms (List.mem_append_right _ List.mem_cons_self)
      · exact hbehind ms (List.mem_append_left _ hms)
  · rintro (hm | ⟨hc, before, d, behind, rfl, hm, hbehind⟩)
    · exact ⟨cs, c, [], rfl, hm, fun _ => List.not_mem_nil⟩
    · refine ⟨before, d, behind ++ [c], by rw [List.append_assoc, List.cons_append], hm, ?_⟩
      intro ms hms
      rcases List.mem_append.1 hms with hms | hms
      · exact hbehind ms hms
      · exact hc ms (List.mem_singleton.1 hms).symm

/-- The induction is on the changes from the last one back, for a collection drops what came before
it. -/
theorem contains_changeAll_iff {cs : List Change} {m : Modifier} :
    (empty.changeAll cs).contains m = true ↔ IsBrought cs m := by
  induction cs using List.reverseRecOn with
  | nil =>
    rw [changeAll, List.foldl_nil, contains_empty]
    exact iff_of_false Bool.false_ne_true (not_isBrought_nil m)
  | append_singleton cs c ih =>
    rw [changeAll_concat, contains_change_iff, ih, isBrought_concat_iff]

/-! ## Bits -/

/-- No change sets a bit that no modifier has. -/
theorem IsClean.change {s : ModifierMask} (h : s.IsClean) (c : Change) : (s.change c).IsClean := by
  cases c with
  | insert m => exact h.insert m
  | adding m => exact h.adding m
  | collect ms => exact isClean_ofList ms

theorem isClean_changeAll (cs : List Change) : (empty.changeAll cs).IsClean := by
  induction cs using List.reverseRecOn with
  | nil => exact isClean_empty
  | append_singleton cs c ih =>
    rw [changeAll_concat]
    exact ih.change c

/-! ## Listings -/

/-- The listing is in the order of the vocabulary. -/
theorem toList_sublist_entries (s : ModifierMask) :
    s.toList.Sublist (Vocabulary.entries : List Modifier) :=
  List.filter_sublist

theorem nodup_toList (s : ModifierMask) : s.toList.Nodup := by
  have hentries : (Vocabulary.entries : List Modifier).Nodup := by decide
  exact s.toList_sublist_entries.nodup hentries

/-- The sets of two lists are equal if the lists have the same elements, and only then. -/
theorem ofList_eq_ofList_iff {ms ms' : List Modifier} :
    ofList ms = ofList ms' ↔ ∀ m, m ∈ ms ↔ m ∈ ms' := by
  constructor
  · intro heq m
    have hm : (ofList ms).contains m = (ofList ms').contains m := by rw [heq]
    rwa [contains_ofList, contains_ofList, decide_eq_decide] at hm
  · intro hsame
    refine (isClean_ofList ms).ext_contains (isClean_ofList ms') fun m => ?_
    rw [contains_ofList, contains_ofList, decide_eq_decide]
    exact hsame m

/-- After any changes to the empty set, its members are the modifiers that were brought since the last
collection or by it. Of the sixteen bits those at the indices of these modifiers are set and no others.
The listing holds each of them once and nothing else, in the order of the vocabulary, and the set of the
listing is the set again. Of two lists the sets are equal exactly if the lists have the same
elements. -/
theorem changeAll_spec (cs : List Change) :
    (∀ m, (empty.changeAll cs).contains m = true ↔ IsBrought cs m) ∧
    (∀ i, (empty.changeAll cs).bits.getLsbD i = true ↔
      ∃ m : Modifier, m.index = i ∧ IsBrought cs m) ∧
    ((empty.changeAll cs).toList.Nodup ∧
      (empty.changeAll cs).toList.Sublist (Vocabulary.entries : List Modifier) ∧
      ∀ m, m ∈ (empty.changeAll cs).toList ↔ IsBrought cs m) ∧
    ofList (empty.changeAll cs).toList = empty.changeAll cs ∧
    ∀ ms ms' : List Modifier, ofList ms = ofList ms' ↔ ∀ m, m ∈ ms ↔ m ∈ ms' := by
  have hclean : (empty.changeAll cs).IsClean := isClean_changeAll cs
  refine ⟨fun _ => contains_changeAll_iff, fun i => ?_,
    ⟨nodup_toList _, toList_sublist_entries _, fun m => ?_⟩, ofList_toList_iff.2 hclean,
    fun _ _ => ofList_eq_ofList_iff⟩
  · simp only [hclean.getLsbD_iff, contains_changeAll_iff]
  · rw [mem_toList, contains_changeAll_iff]

/-- A modifier that a collection drops, one that it brings twice, and two that come behind it. -/
def mixedChanges : List Change :=
  [.insert .sealed, .collect [.static, .async, .static], .adding .const, .insert .async]

/-- What the collection dropped is gone, and the bits are those of the other three. -/
theorem changeAll_spec_mixedChanges :
    (¬ IsBrought mixedChanges .sealed ∧ IsBrought mixedChanges .static ∧
      IsBrought mixedChanges .const) ∧
    (empty.changeAll mixedChanges).bits = 0b10110#16 ∧
    (empty.changeAll mixedChanges).toList = [.async, .const, .static] ∧
    ofList [.async, .const, .static] = empty.changeAll mixedChanges ∧
    ofList [.static, .async, .const, .async] = ofList [.const, .static, .async] := by
  obtain ⟨hmembers, -, -, hlisting, hlists⟩ := changeAll_spec mixedChanges
  have htoList : (empty.changeAll mixedChanges).toList = [.async, .const, .static] := by decide
  refine ⟨⟨?_, ?_, ?_⟩, by decide, htoList, ?_, ?_⟩
  · rw [← hmembers]
    decide
  · rw [← hmembers]
    decide
  · rw [← hmembers]
    decide
  · rw [← htoList]
    exact hlisting
  · rw [hlists]
    intro m
    cases m <;> decide

end ModifierMask

end Nomenclator
