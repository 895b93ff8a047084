import Nomenclator.Unicode.CaseMapping

/-!
# What case mappings start with

A mapping is never empty, and it starts with a given character only for that character itself,
provided that the tables do not lead there: no run maps to the character and no expansion starts
with it (`exists_head_mapCase`). For a character that has no case, such as a mark in front of a
name, the tables are checked once, run by run and not code point by code point
(`exists_head_upper`, `exists_head_lower`).
-/

namespace Nomenclator.Unicode

/-- The code point lies below or above everything that the run maps to. -/
def CaseRun.Misses (run : CaseRun) (n : Nat) : Prop :=
  (n : Int) < run.first + run.offset ∨ run.last + run.offset < n

instance (run : CaseRun) (n : Nat) : Decidable (run.Misses n) :=
  inferInstanceAs (Decidable (_ ∨ _))

/-- A code point that is mapped lies in a run, which shifts it. -/
theorem exists_run_of_shift?_eq_some {runs : List CaseRun} {m n : Nat}
    (h : shift? runs m = some n) :
    ∃ run ∈ runs, run.first ≤ m ∧ m ≤ run.last ∧ n = Int.toNat (m + run.offset) := by
  induction runs with
  | nil => cases h
  | cons run runs ih =>
    simp only [shift?] at h
    split at h
    · cases h
    · rename_i hfirst
      split at h
      · rename_i hwithin
        have hlast : m ≤ run.last := of_decide_eq_true (Bool.and_eq_true_iff.1 hwithin).1
        exact ⟨run, List.mem_cons_self, Nat.le_of_not_lt hfirst, hlast, (Option.some.inj h).symm⟩
      · obtain ⟨r, hr, hfound⟩ := ih h
        exact ⟨r, List.mem_cons_of_mem run hr, hfound⟩

theorem CaseRun.Misses.ne_of_shifted {run : CaseRun} {m n : Nat} (h : run.Misses n) (hn : 0 < n)
    (hfirst : run.first ≤ m) (hlast : m ≤ run.last) : n ≠ Int.toNat (m + run.offset) := by
  rcases h with hbelow | habove
  · omega
  · omega

theorem shift?_ne_some {n : Nat} (hn : 0 < n) {runs : List CaseRun}
    (h : ∀ run ∈ runs, run.Misses n) (m : Nat) : shift? runs m ≠ some n := by
  intro heq
  obtain ⟨run, hrun, hfirst, hlast, hshifted⟩ := exists_run_of_shift?_eq_some heq
  exact (h run hrun).ne_of_shifted hn hfirst hlast hshifted

theorem mem_of_lookup {expansions : List (Nat × List Nat)} {n : Nat} {ns : List Nat}
    (h : expansions.lookup n = some ns) : (n, ns) ∈ expansions := by
  obtain ⟨before, behind, hsplit, -⟩ := List.lookup_eq_some_iff.1 h
  rw [hsplit]
  exact List.mem_append_right before List.mem_cons_self

/-- A code point other than that of the character does not make the character. Code points that are
no characters make the character zero. -/
theorem ofNat_ne {mark : Char} (hmark : 0 < mark.toNat) {n : Nat} (h : n ≠ mark.toNat) :
    Char.ofNat n ≠ mark := by
  rintro rfl
  by_cases hvalid : n.isValidChar
  · have hself : Char.ofNat n = Char.ofNatAux n hvalid := dif_pos hvalid
    exact h (congrArg Char.toNat hself).symm
  · have hzero : (Char.ofNat n).toNat = 0 := congrArg Char.toNat (dif_neg hvalid)
    omega

theorem exists_head_mapCase {expansions : List (Nat × List Nat)} {runs : List CaseRun} {mark : Char}
    (hmark : 0 < mark.toNat) (hruns : ∀ run ∈ runs, run.Misses mark.toNat)
    (hexpansions : ∀ e ∈ expansions, ∃ n ∈ e.2.head?, n ≠ mark.toNat) {c : Char} (hc : c ≠ mark) :
    ∃ d ∈ (mapCase expansions runs c).head?, d ≠ mark := by
  unfold mapCase
  split
  · rename_i n hshift
    have hn : n ≠ mark.toNat := by
      rintro rfl
      exact shift?_ne_some hmark hruns c.toNat hshift
    exact ⟨Char.ofNat n, rfl, ofNat_ne hmark hn⟩
  · split
    · rename_i ns hlookup
      obtain ⟨n, hn, hne⟩ := hexpansions _ (mem_of_lookup hlookup)
      refine ⟨Char.ofNat n, ?_, ofNat_ne hmark hne⟩
      rw [List.head?_map]
      exact Option.mem_map_of_mem Char.ofNat hn
    · exact ⟨c, rfl, hc⟩

/-! ## The mark of verbatim names -/

/-- Only `@` has an upper case mapping that starts with `@`. -/
theorem exists_head_upper {c : Char} (hc : c ≠ '@') : ∃ d ∈ (upper c).head?, d ≠ '@' :=
  exists_head_mapCase (by decide) (by decide +kernel) (by decide +kernel) hc

/-- Only `@` has a lower case mapping that starts with `@`. -/
theorem exists_head_lower {c : Char} (hc : c ≠ '@') : ∃ d ∈ (lower c).head?, d ≠ '@' :=
  exists_head_mapCase (by decide) (by decide +kernel) (by decide +kernel) hc

end Nomenclator.Unicode
