/-!
# First occurrences

Several results of this library are lists in which an entry counts only where it comes first.
`distinctBy` keeps from a list the entries whose key no entry before them has.

Main statements: `distinct_nodup` (nothing is repeated), `mem_distinct` (nothing is lost), and
`distinct_sublist` (the order stays).
-/

namespace Nomenclator

variable {α κ : Type} [DecidableEq κ]

/-- The entries whose key no entry before them has, in order. -/
def distinctBy (key : α → κ) : List α → List α
  | [] => []
  | a :: l => a :: (distinctBy key l).filter fun b => key b ≠ key a

/-- The entries that are equal to none before them, in order. -/
def distinct (l : List κ) : List κ := distinctBy id l

theorem distinctBy_sublist (key : α → κ) (l : List α) : (distinctBy key l).Sublist l := by
  induction l with
  | nil => exact List.Sublist.slnil
  | cons a l ih => exact (List.filter_sublist.trans ih).cons_cons a

theorem distinct_sublist (l : List κ) : (distinct l).Sublist l := distinctBy_sublist id l

/-- No two kept entries have the same key. -/
theorem distinctBy_nodup (key : α → κ) (l : List α) : ((distinctBy key l).map key).Nodup := by
  induction l with
  | nil => exact List.nodup_nil
  | cons a l ih =>
    rw [distinctBy, List.map_cons, List.nodup_cons]
    constructor
    · intro h
      obtain ⟨b, hb, hkey⟩ := List.mem_map.1 h
      simpa [hkey] using (List.mem_filter.1 hb).2
    · exact (List.Sublist.map key List.filter_sublist).nodup ih

theorem distinct_nodup (l : List κ) : (distinct l).Nodup := by
  simpa [distinct] using distinctBy_nodup id l

/-- The first entry with a key is kept for every key that occurs. -/
theorem exists_mem_distinctBy {key : α → κ} {l : List α} {a : α} (h : a ∈ l) :
    ∃ b ∈ distinctBy key l, key b = key a := by
  induction l with
  | nil => cases h
  | cons c l ih =>
    by_cases hkey : key c = key a
    · exact ⟨c, by simp [distinctBy], hkey⟩
    · rcases List.mem_cons.1 h with rfl | h
      · exact absurd rfl hkey
      · obtain ⟨b, hb, hba⟩ := ih h
        refine ⟨b, ?_, hba⟩
        rw [distinctBy, List.mem_cons, List.mem_filter]
        exact Or.inr ⟨hb, by simpa [hba] using fun e => hkey e.symm⟩

@[simp] theorem mem_distinct {l : List κ} {a : κ} : a ∈ distinct l ↔ a ∈ l := by
  constructor
  · exact fun h => (distinct_sublist l).subset h
  · intro h
    have hex : ∃ b ∈ distinctBy id l, id b = id a := exists_mem_distinctBy h
    obtain ⟨b, hb, hba⟩ := hex
    simpa [distinct, ← show b = a from hba] using hb

end Nomenclator
