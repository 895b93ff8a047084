import Nomenclator.Distinct

/-!
# First occurrences in joined lists

Of two lists in a row, the first keeps its own first occurrences and the second those whose keys the
first does not have (`distinctBy_append`). The keys of the kept entries are the distinct keys
(`map_distinctBy`), the entry that is kept for a key is the first that has it
(`filter_distinctBy_eq_find?`), and an entry that is kept in place of another stands before it
(`exists_mem_distinctBy_of_pairwise`). Repetitions may be removed before entries are changed and again
after it (`distinct_map_distinct`). A test of keys commutes with the removal of repetitions
(`distinctBy_filter`), and so does a test that only entries at the front pass
(`distinctBy_filter_of_pairwise`); neighbouring keys of which one has come before may change places
(`distinct_append_swap`). Where a list is made group by group, what is kept of a group are the distinct
keys that the group makes and no group before it has (`filter_distinctBy_flatMap`), and a group that
comes again adds nothing (`distinctBy_flatMap_distinct`).
-/

namespace Nomenclator

variable {α κ : Type} [DecidableEq κ]

theorem mem_of_mem_distinctBy {key : α → κ} {l : List α} {a : α} (h : a ∈ distinctBy key l) :
    a ∈ l :=
  (distinctBy_sublist key l).subset h

theorem distinctBy_append (key : α → κ) (l₁ l₂ : List α) :
    distinctBy key (l₁ ++ l₂) =
      distinctBy key l₁ ++ (distinctBy key l₂).filter fun b => key b ∉ l₁.map key := by
  induction l₁ with
  | nil => rw [List.nil_append, distinctBy, List.nil_append, List.filter_eq_self.2 (by simp)]
  | cons a l₁ ih =>
    rw [List.cons_append, distinctBy, ih, List.filter_append, List.filter_filter, distinctBy,
      List.cons_append]
    congr 2
    refine List.filter_congr fun b _ => ?_
    simp

/-- An entry behind the others is kept if its key is new. -/
theorem distinctBy_concat (key : α → κ) (l : List α) (a : α) :
    distinctBy key (l ++ [a]) =
      if (distinctBy key l).any fun b => key b = key a then distinctBy key l
      else distinctBy key l ++ [a] := by
  have hany : ((distinctBy key l).any fun b => key b = key a) = true ↔ key a ∈ l.map key := by
    rw [List.any_eq_true, List.mem_map]
    constructor
    · rintro ⟨b, hb, hkey⟩
      exact ⟨b, mem_of_mem_distinctBy hb, of_decide_eq_true hkey⟩
    · rintro ⟨b, hb, hkey⟩
      have hkept : ∃ c ∈ distinctBy key l, key c = key b := exists_mem_distinctBy hb
      obtain ⟨c, hc, hcb⟩ := hkept
      exact ⟨c, hc, decide_eq_true (hcb.trans hkey)⟩
  have hone : distinctBy key [a] = [a] := rfl
  rw [distinctBy_append, hone, List.filter_cons, List.filter_nil]
  by_cases h : key a ∈ l.map key
  · rw [if_neg (by simpa using h), if_pos (hany.2 h), List.append_nil]
  · rw [if_pos (by simpa using h), if_neg (mt hany.1 h)]

/-- Of the entries with one key the first is kept. -/
theorem filter_distinctBy_eq_find? (key : α → κ) (k : κ) (l : List α) :
    (distinctBy key l).filter (fun a => key a = k) = (l.find? fun a => key a = k).toList := by
  induction l with
  | nil => rfl
  | cons a l ih =>
    rw [distinctBy, List.filter_cons, List.filter_filter]
    by_cases h : key a = k
    · have hrest : (distinctBy key l).filter (fun b => decide (key b = k) && decide (key b ≠ key a)) =
          [] := by
        refine List.filter_eq_nil_iff.2 fun b _ => ?_
        simp [h]
      rw [hrest]
      simp [h]
    · have hrest : (distinctBy key l).filter (fun b => decide (key b = k) && decide (key b ≠ key a)) =
          (distinctBy key l).filter fun b => key b = k := by
        refine List.filter_congr fun b _ => ?_
        by_cases hb : key b = k
        · simp [hb, Ne.symm h]
        · simp [hb]
      rw [hrest, ih]
      simp [h]

/-- The keys of the first occurrences are the first occurrences of the keys. -/
theorem map_distinctBy (key : α → κ) (l : List α) :
    (distinctBy key l).map key = distinct (l.map key) := by
  unfold distinct
  induction l with
  | nil => rfl
  | cons a l ih =>
    rw [List.map_cons, distinctBy, distinctBy, List.map_cons, ← ih, List.filter_map]
    rfl

theorem distinct_cons (a : κ) (l : List κ) :
    distinct (a :: l) = a :: (distinct l).filter fun b => b ≠ a := rfl

theorem distinct_eq_nil_iff {l : List κ} : distinct l = [] ↔ l = [] := by
  cases l <;> simp [distinct, distinctBy]

/-- First occurrences stand in the order of the list: the entry comes before any occurrence of one that
is kept behind it. -/
theorem distinct_pairwise (l : List κ) :
    (distinct l).Pairwise fun a b => ∃ before behind, l = before ++ a :: behind ∧ b ∉ before := by
  induction l with
  | nil => exact List.Pairwise.nil
  | cons c l ih =>
    rw [distinct_cons, List.pairwise_cons, List.pairwise_filter]
    refine ⟨fun b _ => ⟨[], l, rfl, List.not_mem_nil⟩, ih.imp ?_⟩
    rintro a b ⟨before, behind, rfl, hb⟩ - hne
    refine ⟨c :: before, behind, rfl, ?_⟩
    rw [List.mem_cons, not_or]
    exact ⟨of_decide_eq_true hne, hb⟩

/-- Entries without repetitions keep their order and number under a map that repeats none. -/
theorem distinct_map_of_injective {β : Type} [DecidableEq β] {f : κ → β} (hf : Function.Injective f)
    (l : List κ) : distinct (l.map f) = (distinct l).map f := by
  induction l with
  | nil => rfl
  | cons a l ih =>
    rw [List.map_cons, distinct_cons, distinct_cons, ih, List.map_cons, List.filter_map]
    refine congrArg (f a :: ·) (congrArg (List.map f) (List.filter_congr fun b _ => ?_))
    simp [hf.eq_iff]

/-- A test that looks at keys only can be made before or after repetitions are removed: it takes away
all entries of a key or none. -/
theorem distinctBy_filter {key : α → κ} {test : α → Bool}
    (htest : ∀ a b, key a = key b → test a = test b) (l : List α) :
    distinctBy key (l.filter test) = (distinctBy key l).filter test := by
  induction l with
  | nil => rfl
  | cons a l ih =>
    by_cases ha : test a = true
    · rw [List.filter_cons_of_pos ha, distinctBy, distinctBy, List.filter_cons_of_pos ha, ih,
        List.filter_filter, List.filter_filter]
      refine congrArg (a :: ·) (List.filter_congr fun b _ => ?_)
      exact Bool.and_comm _ _
    · -- The key of the entry is gone, and the test finds nothing else of that key.
      rw [List.filter_cons_of_neg ha, distinctBy, List.filter_cons_of_neg ha, ih, List.filter_filter]
      refine List.filter_congr fun b _ => ?_
      by_cases hkey : key b = key a
      · simp [htest b a hkey, ha]
      · simp [hkey]

/-- What is mapped to the same entry may be repeated or not before the map. -/
theorem distinct_map_distinct {β : Type} [DecidableEq β] (f : κ → β) (l : List κ) :
    distinct ((distinct l).map f) = distinct (l.map f) := by
  induction l with
  | nil => rfl
  | cons a l ih =>
    have htest : ∀ b c : β, id b = id c → decide (b ≠ f a) = decide (c ≠ f a) := by
      rintro b _ rfl
      rfl
    -- What the map sends elsewhere than the first entry is not the first entry.
    have hfilter : (((distinct l).filter fun b => b ≠ a).map f).filter (fun b => b ≠ f a) =
        ((distinct l).map f).filter fun b => b ≠ f a := by
      rw [List.filter_map, List.filter_map, List.filter_filter]
      refine congrArg (List.map f) (List.filter_congr fun b _ => ?_)
      by_cases hb : b = a
      · simp [hb]
      · simp [hb]
    rw [distinct_cons, List.map_cons, List.map_cons, distinct_cons, distinct_cons, ← ih]
    refine congrArg (f a :: ·) ?_
    unfold distinct at hfilter ⊢
    rw [← distinctBy_filter htest, hfilter, distinctBy_filter htest]

/-- A test that only entries at the front pass can be made before or after repetitions are removed: what
it takes away has nothing behind it that it keeps. -/
theorem distinctBy_filter_of_pairwise {key : α → κ} {test : α → Bool} {l : List α}
    (h : l.Pairwise fun a b => test b = true → test a = true) :
    distinctBy key (l.filter test) = (distinctBy key l).filter test := by
  induction l with
  | nil => rfl
  | cons a l ih =>
    obtain ⟨ha, hl⟩ := List.pairwise_cons.1 h
    by_cases hfront : test a = true
    · rw [List.filter_cons_of_pos hfront, distinctBy, distinctBy, List.filter_cons_of_pos hfront,
        ih hl, List.filter_filter, List.filter_filter]
      refine congrArg (a :: ·) (List.filter_congr fun b _ => ?_)
      exact Bool.and_comm _ _
    · have hnone : (a :: l).filter test = [] := by
        refine List.filter_eq_nil_iff.2 fun b hb hkept => hfront ?_
        rcases List.mem_cons.1 hb with rfl | hb
        · exact hkept
        · exact ha b hb hkept
      have hsub := List.Sublist.filter test (distinctBy_sublist key (a :: l))
      rw [hnone] at hsub
      rw [hnone, List.sublist_nil.1 hsub]
      rfl

/-- What has come before adds nothing. -/
theorem distinct_append_cons_of_mem {l : List κ} {a : κ} (h : a ∈ l)
    (r : List κ) : distinct (l ++ a :: r) = distinct (l ++ r) := by
  unfold distinct
  rw [distinctBy_append, distinctBy_append, distinctBy, List.filter_cons_of_neg (by simpa using h),
    List.filter_filter]
  refine congrArg _ (List.filter_congr fun b _ => ?_)
  by_cases hb : b = a
  · simp [hb, h]
  · simp [hb]

/-- Neighbours change places where one of them has come before. -/
theorem distinct_append_swap {l : List κ} {a b : κ}
    (h : a = b ∨ a ∈ l ∨ b ∈ l) (r : List κ) :
    distinct (l ++ a :: b :: r) = distinct (l ++ b :: a :: r) := by
  have hfirst : ∀ {x y : κ}, x ∈ l → distinct (l ++ x :: y :: r) = distinct (l ++ y :: x :: r) := by
    intro x y hx
    have hsplit : l ++ y :: x :: r = (l ++ [y]) ++ x :: r := by simp
    rw [distinct_append_cons_of_mem hx, hsplit,
      distinct_append_cons_of_mem (List.mem_append_left _ hx), List.append_assoc]
    rfl
  rcases h with rfl | ha | hb
  · rfl
  · exact hfirst ha
  · exact (hfirst hb).symm

/-- What is kept in place of an entry stands before it. -/
theorem exists_mem_distinctBy_of_pairwise (key : α → κ) {R : α → α → Prop} {l : List α}
    (hR : l.Pairwise R) {a : α} (h : a ∈ l) :
    ∃ b ∈ distinctBy key l, key b = key a ∧ (b = a ∨ R b a) := by
  induction l with
  | nil => cases h
  | cons c l ih =>
    obtain ⟨hc, hl⟩ := List.pairwise_cons.1 hR
    by_cases hkey : key c = key a
    · refine ⟨c, by simp [distinctBy], hkey, ?_⟩
      rcases List.mem_cons.1 h with rfl | h
      · exact Or.inl rfl
      · exact Or.inr (hc a h)
    · rcases List.mem_cons.1 h with rfl | h
      · exact absurd rfl hkey
      · obtain ⟨b, hb, hba, hbefore⟩ := ih hl h
        refine ⟨b, ?_, hba, hbefore⟩
        rw [distinctBy, List.mem_cons, List.mem_filter]
        exact Or.inr ⟨hb, by simpa [hba] using fun e => hkey e.symm⟩

section Groups

variable {ι : Type} [DecidableEq ι] {key : α → κ} {group : α → ι} {make : ι → List α}
  (hmake : ∀ i, ∀ a ∈ make i, group a = i)

include hmake

/-- Of its own group all entries are in it. -/
theorem filter_group_distinctBy_self (i : ι) :
    (distinctBy key (make i)).filter (fun a => group a = i) = distinctBy key (make i) :=
  List.filter_eq_self.2 fun a ha => by simpa using hmake i a (mem_of_mem_distinctBy ha)

/-- A group has no entries of another. -/
theorem filter_group_distinctBy_of_ne {i j : ι} (hne : j ≠ i) :
    (distinctBy key (make j)).filter (fun a => group a = i) = [] := by
  refine List.filter_eq_nil_iff.2 fun a ha => ?_
  rw [hmake j a (mem_of_mem_distinctBy ha)]
  simpa using hne

/-- Behind a group there is nothing new of it. -/
theorem filter_group_new_eq_nil (i : ι) (is : List ι) :
    ((distinctBy key (is.flatMap make)).filter fun b => key b ∉ (make i).map key).filter
      (fun a => group a = i) = [] := by
  refine List.filter_eq_nil_iff.2 fun a ha hgroup => ?_
  obtain ⟨hmem, hnew⟩ := List.mem_filter.1 ha
  obtain ⟨j, -, haj⟩ := List.mem_flatMap.1 (mem_of_mem_distinctBy hmem)
  obtain rfl : j = i := (hmake j a haj).symm.trans (by simpa using hgroup)
  exact of_decide_eq_true hnew (List.mem_map_of_mem haj)

/-- What is kept of one of several groups. The induction is on the groups: those before the group
only take keys away from it, and those behind it, or the group itself once more, add nothing. -/
theorem filter_distinctBy_flatMap {is : List ι} {i : ι} (h : i ∈ is) :
    ((distinctBy key (is.flatMap make)).filter fun a => group a = i).map key =
      (distinct ((make i).map key)).filter fun k =>
        ∀ j ∈ is.takeWhile (· ≠ i), k ∉ (make j).map key := by
  induction is with
  | nil => cases h
  | cons j is ih =>
    rw [List.flatMap_cons, distinctBy_append, List.filter_append]
    by_cases hj : j = i
    · subst hj
      rw [filter_group_distinctBy_self hmake, filter_group_new_eq_nil hmake, List.append_nil,
        map_distinctBy, List.takeWhile_cons_of_neg (by simp), List.filter_eq_self.2 (by simp)]
    · have hi : i ∈ is := (List.mem_cons.1 h).resolve_left (Ne.symm hj)
      have hcomm : (((distinctBy key (is.flatMap make)).filter
          fun b => key b ∉ (make j).map key).filter (fun a => group a = i)).map key =
          (((distinctBy key (is.flatMap make)).filter (fun a => group a = i)).map key).filter
            fun k => k ∉ (make j).map key := by
        rw [List.filter_map, List.filter_filter, List.filter_filter]
        refine congrArg (List.map key) (List.filter_congr fun a _ => ?_)
        exact Bool.and_comm _ _
      rw [filter_group_distinctBy_of_ne hmake hj, List.nil_append, hcomm, ih hi, List.filter_filter,
        List.takeWhile_cons_of_pos (by simpa using hj)]
      refine List.filter_congr fun k _ => ?_
      simp

end Groups

/-- A group that is made first need not be made again. -/
theorem distinctBy_append_flatMap {ι : Type} [DecidableEq ι] (key : α → κ) (make : ι → List α)
    (i : ι) (is : List ι) :
    distinctBy key (make i ++ (is.filter fun j => j ≠ i).flatMap make) =
      distinctBy key (make i ++ is.flatMap make) := by
  have hkey : ∀ a b : α, key a = key b →
      decide (key a ∉ (make i).map key) = decide (key b ∉ (make i).map key) := by
    intro a b hab
    rw [hab]
  have hnone : (make i).filter (fun b => key b ∉ (make i).map key) = [] :=
    List.filter_eq_nil_iff.2 fun a ha hnew => of_decide_eq_true hnew (List.mem_map_of_mem ha)
  rw [distinctBy_append, distinctBy_append, ← distinctBy_filter hkey, ← distinctBy_filter hkey,
    List.filter_flatMap, List.filter_flatMap]
  congr 2
  induction is with
  | nil => rfl
  | cons j is ih =>
    by_cases hj : j = i
    · rw [List.filter_cons_of_neg (by simpa using hj), ih, List.flatMap_cons, hj, hnone,
        List.nil_append]
    · rw [List.filter_cons_of_pos (by simpa using hj), List.flatMap_cons, List.flatMap_cons, ih]

/-- Groups that come again add nothing. -/
theorem distinctBy_flatMap_distinct {ι : Type} [DecidableEq ι] (key : α → κ) (make : ι → List α)
    (is : List ι) :
    distinctBy key ((distinct is).flatMap make) = distinctBy key (is.flatMap make) := by
  induction is with
  | nil => rfl
  | cons i is ih =>
    rw [distinct_cons, List.flatMap_cons, List.flatMap_cons, distinctBy_append_flatMap,
      distinctBy_append, ih, ← distinctBy_append]

/-- The first occurrences in groups that have nothing in common are found group by group. -/
theorem distinct_flatMap_of_groups {ι : Type} {group : κ → ι} {make : ι → List κ}
    (hmake : ∀ i, ∀ a ∈ make i, group a = i) {is : List ι} (his : is.Nodup) :
    distinct (is.flatMap make) = is.flatMap fun i => distinct (make i) := by
  induction is with
  | nil => rfl
  | cons i is ih =>
    obtain ⟨hi, his⟩ := List.nodup_cons.1 his
    have hothers : (distinct (is.flatMap make)).filter (fun b => id b ∉ (make i).map id) =
        distinct (is.flatMap make) := by
      refine List.filter_eq_self.2 fun a ha => ?_
      obtain ⟨j, hj, haj⟩ := List.mem_flatMap.1 (mem_distinct.1 ha)
      have hne : a ∉ make i := by
        intro hai
        rw [← hmake i a hai, hmake j a haj] at hi
        exact hi hj
      simpa using hne
    rw [List.flatMap_cons, List.flatMap_cons, ← ih his]
    unfold distinct at hothers ⊢
    rw [distinctBy_append, hothers]

end Nomenclator
