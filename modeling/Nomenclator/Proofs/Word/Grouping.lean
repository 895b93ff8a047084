import Nomenclator.Word.Grouping

/-!
# Every front and every back is grouped once

The groupings of some words are what stands at their fronts and at their backs, all of them but the
empty ones. Words can be repeated, so that a front and a back may read the same; what comes only once
is the place of a grouping. `Word.groupingSpans` lists the places of the groupings in order
(`Word.groupings_eq_map`), and it is exactly the list of the fronts and the backs
(`Word.mem_groupingSpans_iff`), each of them once (`Word.nodup_groupingSpans`).

The list goes down from one length to the next smaller one. At each length it puts a front and a back
before spans that are all shorter (`Word.mem_endSpans_iff`), and this carries the inductions.

Main statement: `Word.groupings_spec`.
-/

namespace Nomenclator

variable {α : Type}

/-! ## Spans -/

/-- Places in a list that follow one another: from the place `start` to the one before `stop`. -/
structure Span where
  start : Nat
  stop : Nat
  deriving DecidableEq, Repr

namespace Span

/-- The number of places. -/
def length (s : Span) : Nat := s.stop - s.start

/-- What stands at the places of the span. -/
def items (s : Span) (l : List α) : List α := l.extract s.start s.stop

/-- Of `n` places the span has at least one, and it starts with the first of them or ends with the
last. -/
structure IsEnd (n : Nat) (s : Span) : Prop where
  start_lt_stop : s.start < s.stop
  stop_le : s.stop ≤ n
  front_or_back : s.start = 0 ∨ s.stop = n

variable {n k : Nat} {s : Span}

theorem length_front (k : Nat) : length ⟨0, k⟩ = k := Nat.sub_zero k

theorem length_back (h : k ≤ n) : length ⟨n - k, n⟩ = k := Nat.sub_sub_self h

theorem isEnd_front (hpos : 0 < k) (hle : k ≤ n) : IsEnd n ⟨0, k⟩ := ⟨hpos, hle, Or.inl rfl⟩

theorem isEnd_back (hpos : 0 < k) (hle : k ≤ n) : IsEnd n ⟨n - k, n⟩ :=
  ⟨Nat.sub_lt (Nat.lt_of_lt_of_le hpos hle) hpos, Nat.le_refl n, Or.inr rfl⟩

theorem IsEnd.length_pos (h : s.IsEnd n) : 0 < s.length := Nat.sub_pos_of_lt h.start_lt_stop

theorem IsEnd.length_le (h : s.IsEnd n) : s.length ≤ n :=
  Nat.le_trans (Nat.sub_le _ _) h.stop_le

/-- There are only two ends of each length. -/
theorem IsEnd.eq_front_or_back (h : s.IsEnd n) :
    s = ⟨0, s.length⟩ ∨ s = ⟨n - s.length, n⟩ := by
  obtain ⟨start, stop⟩ := s
  rcases h.front_or_back with hstart | hstop
  · left
    obtain rfl : start = 0 := hstart
    rw [length_front]
  · right
    obtain rfl : stop = n := hstop
    rw [length, Nat.sub_sub_self (Nat.le_of_lt h.start_lt_stop)]

theorem items_front (k : Nat) (l : List α) : items ⟨0, k⟩ l = l.take k := by
  simp [items, List.extract_eq_take_drop]

theorem items_back (k : Nat) (l : List α) : items ⟨k, l.length⟩ l = l.drop k := by
  rw [items, List.extract_eq_take_drop, ← List.length_drop, List.take_length]

end Span

namespace Word

/-! ## The spans of the groupings -/

/-- Of `n` places the fronts and the backs of at most `k` places, the longer ones first, and of each
length the front before the back. -/
def endSpans (n : Nat) : Nat → List Span
  | 0 => []
  | k + 1 => ⟨0, k + 1⟩ :: ⟨n - (k + 1), n⟩ :: endSpans n k

/-- The places of the groupings of `n` words. -/
def groupingSpans : Nat → List Span
  | 0 => []
  | n + 1 => ⟨0, n + 1⟩ :: endSpans (n + 1) n

variable {n k : Nat}

@[simp] theorem length_endSpans (n k : Nat) : (endSpans n k).length = 2 * k := by
  induction k with
  | zero => rfl
  | succ k ih =>
    rw [endSpans, List.length_cons, List.length_cons, ih]
    omega

/-- The `i`-th pair of spans has `i` places less than the first one. -/
theorem getElem?_endSpans {i : Nat} (h : i < k) :
    (endSpans n k)[2 * i]? = some ⟨0, k - i⟩ ∧
      (endSpans n k)[2 * i + 1]? = some ⟨n - (k - i), n⟩ := by
  induction k generalizing i with
  | zero => cases h
  | succ k ih =>
    cases i with
    | zero => exact ⟨rfl, rfl⟩
    | succ i =>
      obtain ⟨hfront, hback⟩ := ih (Nat.lt_of_succ_lt_succ h)
      rw [Nat.add_sub_add_right]
      exact ⟨hfront, hback⟩

theorem mem_endSpans_iff (h : k ≤ n) {s : Span} :
    s ∈ endSpans n k ↔ s.IsEnd n ∧ s.length ≤ k := by
  induction k with
  | zero =>
    constructor
    · intro hmem
      cases hmem
    · rintro ⟨hend, hlength⟩
      exact absurd hend.length_pos (Nat.not_lt.2 hlength)
  | succ k ih =>
    rw [endSpans, List.mem_cons, List.mem_cons, ih (Nat.le_of_succ_le h)]
    constructor
    · rintro (rfl | rfl | ⟨hend, hlength⟩)
      · exact ⟨Span.isEnd_front (Nat.succ_pos k) h, Nat.le_of_eq (Span.length_front _)⟩
      · exact ⟨Span.isEnd_back (Nat.succ_pos k) h, Nat.le_of_eq (Span.length_back h)⟩
      · exact ⟨hend, Nat.le_succ_of_le hlength⟩
    · rintro ⟨hend, hlength⟩
      rcases Nat.le_or_eq_of_le_succ hlength with hshort | hlong
      · exact Or.inr (Or.inr ⟨hend, hshort⟩)
      · have hsides := hend.eq_front_or_back
        rw [hlong] at hsides
        exact or_assoc.1 (Or.inl hsides)

theorem nodup_endSpans (h : k < n) : (endSpans n k).Nodup := by
  induction k with
  | zero => exact List.nodup_nil
  | succ k ih =>
    -- The spans behind the first two are shorter than these.
    have hlonger : ∀ s : Span, s.length = k + 1 → s ∉ endSpans n k := by
      intro s hs hmem
      have hlength := ((mem_endSpans_iff (by omega)).1 hmem).2
      omega
    have hfront : Span.mk 0 (k + 1) ∉ endSpans n k := hlonger _ (Span.length_front _)
    have hback : Span.mk (n - (k + 1)) n ∉ endSpans n k :=
      hlonger _ (Span.length_back (Nat.le_of_lt h))
    have hne : Span.mk 0 (k + 1) ≠ ⟨n - (k + 1), n⟩ := by
      intro heq
      have hstop : k + 1 = n := congrArg Span.stop heq
      omega
    rw [endSpans, List.nodup_cons, List.nodup_cons, List.mem_cons, not_or]
    exact ⟨⟨hne, hfront⟩, hback, ih (Nat.lt_of_succ_lt h)⟩

theorem mem_groupingSpans_iff {s : Span} : s ∈ groupingSpans n ↔ s.IsEnd n := by
  cases n with
  | zero =>
    constructor
    · intro hmem
      cases hmem
    · intro hend
      exact absurd hend.length_pos (Nat.not_lt.2 hend.length_le)
  | succ n =>
    rw [groupingSpans, List.mem_cons, mem_endSpans_iff (Nat.le_succ n)]
    constructor
    · rintro (rfl | ⟨hend, -⟩)
      · exact Span.isEnd_front (Nat.succ_pos n) (Nat.le_refl _)
      · exact hend
    · intro hend
      rcases Nat.le_or_eq_of_le_succ hend.length_le with hshort | hall
      · exact Or.inr ⟨hend, hshort⟩
      · -- At the full length the front and the back are the same span.
        have hsame := hend.eq_front_or_back
        rw [hall, Nat.sub_self, or_self] at hsame
        exact Or.inl hsame

theorem nodup_groupingSpans (n : Nat) : (groupingSpans n).Nodup := by
  cases n with
  | zero => exact List.nodup_nil
  | succ n =>
    rw [groupingSpans, List.nodup_cons, mem_endSpans_iff (Nat.le_succ n), Span.length_front]
    exact ⟨fun hmem => absurd hmem.2 (Nat.not_succ_le_self n), nodup_endSpans (Nat.lt_succ_self n)⟩

/-! ## The groupings -/

variable (ws : List α)

theorem map_items_endSpans (k : Nat) :
    (endSpans ws.length k).map (fun s => s.items ws) =
      (List.range k).reverse.flatMap fun j =>
        [ws.take (j + 1), ws.drop (ws.length - (j + 1))] := by
  induction k with
  | zero => rfl
  | succ k ih =>
    rw [endSpans, List.map_cons, List.map_cons, ih, Span.items_front, Span.items_back,
      List.range_succ, List.reverse_append, List.reverse_singleton, List.singleton_append,
      List.flatMap_cons]
    rfl

/-- The groupings stand at their spans. -/
theorem groupings_eq_map :
    groupings ws = (groupingSpans ws.length).map fun s => s.items ws := by
  cases ws with
  | nil => rfl
  | cons w ws =>
    have hends := map_items_endSpans (w :: ws) ws.length
    simp only [List.length_cons, Nat.add_sub_add_right] at hends
    rw [List.length_cons, groupingSpans, List.map_cons, hends, Span.items_front,
      ← List.length_cons (a := w), List.take_length]
    rfl

theorem length_groupings : (groupings ws).length = 2 * ws.length - 1 := by
  rw [groupings_eq_map, List.length_map]
  cases ws with
  | nil => rfl
  | cons w ws =>
    rw [List.length_cons, groupingSpans, List.length_cons, length_endSpans]
    omega

/-- The `i`-th pair of groupings leaves out `i` words, first at the back and then at the front. -/
theorem getElem?_groupings {i : Nat} (hpos : 0 < i) (hlt : i < ws.length) :
    (groupings ws)[2 * i - 1]? = some (ws.take (ws.length - i)) ∧
      (groupings ws)[2 * i]? = some (ws.drop i) := by
  obtain ⟨j, rfl⟩ : ∃ j, i = j + 1 := ⟨i - 1, by omega⟩
  obtain ⟨n, hn⟩ : ∃ n, ws.length = n + 1 := ⟨ws.length - 1, by omega⟩
  obtain ⟨hfront, hback⟩ := getElem?_endSpans (n := n + 1) (show j < n by omega)
  rw [show n + 1 - (n - j) = j + 1 by omega] at hback
  have hspans : (groupingSpans (n + 1))[2 * (j + 1) - 1]? = some ⟨0, n + 1 - (j + 1)⟩ ∧
      (groupingSpans (n + 1))[2 * (j + 1)]? = some ⟨j + 1, n + 1⟩ := by
    rw [Nat.add_sub_add_right]
    exact ⟨hfront, hback⟩
  rw [groupings_eq_map, List.getElem?_map, List.getElem?_map, hn, hspans.1, hspans.2,
    Option.map_some, Option.map_some, Span.items_front, ← hn, Span.items_back]
  exact ⟨rfl, rfl⟩

/-- The groupings are the fronts and the backs of the words that are not empty. -/
theorem mem_groupings_iff {ws g : List α} :
    g ∈ groupings ws ↔ g ≠ [] ∧ (g <+: ws ∨ g <:+ ws) := by
  rw [groupings_eq_map, List.mem_map]
  constructor
  · rintro ⟨s, hmem, rfl⟩
    have hend := mem_groupingSpans_iff.1 hmem
    have hpos := hend.length_pos
    have hle := hend.length_le
    rcases hend.eq_front_or_back with hs | hs
    · rw [hs, Span.items_front]
      refine ⟨List.length_pos_iff.1 ?_, Or.inl (List.take_prefix _ _)⟩
      rwa [List.length_take, Nat.min_eq_left hle]
    · rw [hs, Span.items_back]
      refine ⟨List.length_pos_iff.1 ?_, Or.inr (List.drop_suffix _ _)⟩
      rwa [List.length_drop, Nat.sub_sub_self hle]
  · rintro ⟨hne, hg⟩
    have hpos := List.length_pos_iff.2 hne
    rcases hg with hfront | hback
    · refine ⟨⟨0, g.length⟩, mem_groupingSpans_iff.2 (Span.isEnd_front hpos hfront.length_le), ?_⟩
      rw [Span.items_front, ← List.prefix_iff_eq_take.1 hfront]
    · refine ⟨⟨ws.length - g.length, ws.length⟩,
        mem_groupingSpans_iff.2 (Span.isEnd_back hpos hback.length_le), ?_⟩
      rw [Span.items_back, ← List.suffix_iff_eq_drop.1 hback]

/-- Of `n` words there are `2 * n - 1` groupings. The first is all the words. Then the lengths fall by
one from each pair to the next, from `n - 1` to one, and a pair is the front and the back of its
length. The groupings stand at spans that are all different, and these are all the fronts and all the
backs; so every front and every back that is not empty is a grouping, and nothing else is. -/
theorem groupings_spec (h : ws ≠ []) :
    (groupings ws).length = 2 * ws.length - 1 ∧
    (groupings ws)[0]? = some ws ∧
    (∀ i, 0 < i → i < ws.length →
      (groupings ws)[2 * i - 1]? = some (ws.take (ws.length - i)) ∧
      (groupings ws)[2 * i]? = some (ws.drop i)) ∧
    (groupings ws = (groupingSpans ws.length).map (fun s => s.items ws) ∧
      (groupingSpans ws.length).Nodup ∧
      ∀ s, s ∈ groupingSpans ws.length ↔ s.IsEnd ws.length) ∧
    ∀ g, g ∈ groupings ws ↔ g ≠ [] ∧ (g <+: ws ∨ g <:+ ws) := by
  have hfirst : (groupings ws)[0]? = some ws := by
    obtain ⟨w, ws, rfl⟩ := List.exists_cons_of_ne_nil h
    rfl
  exact ⟨length_groupings ws, hfirst, fun i => getElem?_groupings ws,
    ⟨groupings_eq_map ws, nodup_groupingSpans _, fun _ => mem_groupingSpans_iff⟩,
    fun _ => mem_groupings_iff⟩

/-- Three words, of which the first and the last read the same. -/
def backToBack : List Word := [ofText "Back".toList, ofText "To".toList, ofText "Back".toList]

/-- The front of one word and the back of one word read the same, but they stand at different spans. -/
theorem groupings_spec_backToBack :
    backToBack ≠ [] ∧
    (groupings backToBack).map joined =
      ["BackToBack".toList, "BackTo".toList, "ToBack".toList, "Back".toList, "Back".toList] ∧
    ((groupings backToBack)[3]? = some (backToBack.take 1) ∧
      (groupings backToBack)[4]? = some (backToBack.drop 2)) ∧
    groupingSpans backToBack.length = [⟨0, 3⟩, ⟨0, 2⟩, ⟨1, 3⟩, ⟨0, 1⟩, ⟨2, 3⟩] ∧
    (groupingSpans backToBack.length).Nodup ∧
    backToBack.drop 1 ∈ groupings backToBack := by
  have hne : backToBack ≠ [] := by decide
  obtain ⟨-, -, hpairs, ⟨-, hnodup, -⟩, hmem⟩ := groupings_spec backToBack hne
  refine ⟨hne, by decide +kernel, hpairs 2 (by decide) (by decide), rfl, hnodup, ?_⟩
  exact (hmem _).2 ⟨by decide, Or.inr (List.drop_suffix _ _)⟩

end Word

end Nomenclator
