import Mathlib.Data.List.Perm.Basic
import Nomenclator.Proofs.Suggestion.Candidates

/-!
# The kinds that a site may declare

Which names are suggested depends on the set of kinds that a site may declare, and not on how the kinds
are listed. Ranking puts them in order, but it merges only neighbours that are equal, and the kinds of
types share a rank; so a kind can be gone through more than once, and types come in the order given.
Neither can be seen where repetitions are removed: a kind that has come before suggests nothing new
(`distinctBy_flatMap_distinct`), and of the ranked kinds only the first occurrences count, which the
order of the types determines (`distinct_rankedKinds_congr`). The main statement is
`RuleSet.suggest_congr_possibleKinds`.
-/

namespace Nomenclator

/-! ## Ranked kinds -/

theorem distinct_mergeRepeats {α : Type} [DecidableEq α] (l : List α) :
    distinct (mergeRepeats l) = distinct l := by
  fun_induction mergeRepeats l with
  | case1 => rfl
  | case2 a => rfl
  | case3 b l ih =>
    have hb : b ∈ [b] := List.mem_singleton_self b
    exact ih.trans (distinct_append_cons_of_mem hb l).symm
  | case4 a b l h ih => rw [distinct_cons, ih, ← distinct_cons]

theorem SymbolKind.isType_iff_rank {kind : SymbolKind} : kind.isType = true ↔ kind.rank = 6 := by
  cases kind <;> simp [SymbolKind.isType, SymbolKind.rank]

/-- No two kinds share a rank, but for those of types. -/
theorem SymbolKind.eq_of_rank_eq {j k : SymbolKind} (h : j.rank = k.rank) (hrank : k.rank ≠ 6) :
    j = k := by
  cases j <;> cases k <;> simp_all [SymbolKind.rank]

variable {kinds kinds' : List SymbolKind}

/-- The kinds of one rank are the same in two listings of a set: there is only one such kind, or these
are the kinds of types. -/
theorem distinct_filter_rank_congr (hmem : ∀ kind, kind ∈ kinds' ↔ kind ∈ kinds)
    (htypes : distinct (kinds'.filter SymbolKind.isType) = distinct (kinds.filter SymbolKind.isType))
    (rank : Nat) :
    distinct (kinds'.filter fun kind => kind.rank = rank) =
      distinct (kinds.filter fun kind => kind.rank = rank) := by
  by_cases hrank : rank = 6
  · have htest : (fun kind : SymbolKind => decide (kind.rank = rank)) = SymbolKind.isType := by
      funext kind
      rw [hrank, Bool.eq_iff_iff, SymbolKind.isType_iff_rank, decide_eq_true_iff]
    rw [htest, htypes]
  · have hone : ∀ j k : SymbolKind, j ∈ distinct (kinds'.filter fun kind => kind.rank = rank) →
        k ∈ distinct (kinds.filter fun kind => kind.rank = rank) → j = k := by
      intro j k hj hk
      have hj : j.rank = rank := by simpa using (List.mem_filter.1 (mem_distinct.1 hj)).2
      have hk : k.rank = rank := by simpa using (List.mem_filter.1 (mem_distinct.1 hk)).2
      exact SymbolKind.eq_of_rank_eq (hj.trans hk.symm) (hk ▸ hrank)
    have hperm : (distinct (kinds'.filter fun kind => kind.rank = rank)).Perm
        (distinct (kinds.filter fun kind => kind.rank = rank)) :=
      (List.perm_ext_iff_of_nodup (distinct_nodup _) (distinct_nodup _)).2 fun kind => by
        simp [hmem]
    exact hperm.eq_of_pairwise (fun j k hj hk _ _ => hone j k hj hk)
      (List.pairwise_of_forall_mem_list fun _ _ _ _ => trivial)
      (List.pairwise_of_forall_mem_list fun _ _ _ _ => trivial)

/-- The first occurrences among the ranked kinds depend on which kinds are given and on the order of the
types among them, and on nothing else. -/
theorem distinct_rankedKinds_congr (hmem : ∀ kind, kind ∈ kinds' ↔ kind ∈ kinds)
    (htypes : distinct (kinds'.filter SymbolKind.isType) =
      distinct (kinds.filter SymbolKind.isType)) :
    distinct (rankedKinds kinds') = distinct (rankedKinds kinds) := by
  have hgroup : ∀ kinds : List SymbolKind, ∀ rank,
      ∀ kind ∈ kinds.filter (fun kind => kind.rank = rank), kind.rank = rank := by
    intro kinds rank kind hkind
    simpa using (List.mem_filter.1 hkind).2
  have hsorted : ∀ kinds, distinct (sortByRank kinds) =
      (List.range rankCount).flatMap fun rank =>
        distinct (kinds.filter fun kind => kind.rank = rank) := fun kinds =>
    distinct_flatMap_of_groups (hgroup kinds) List.nodup_range
  rw [rankedKinds, rankedKinds, distinct_mergeRepeats, distinct_mergeRepeats, hsorted, hsorted]
  exact List.flatMap_congr fun rank _ => distinct_filter_rank_congr hmem htypes rank

/-! ## Candidates -/

namespace DeclarationSite

/-- What is asked at a site depends on the set of kinds alone. -/
theorem question?_congr (site : DeclarationSite)
    (hmem : ∀ kind, kind ∈ kinds ↔ kind ∈ site.possibleKinds) :
    DeclarationSite.question? { site with possibleKinds := kinds } = site.question? := by
  have hempty : kinds.isEmpty = site.possibleKinds.isEmpty := by
    rw [Bool.eq_iff_iff, List.isEmpty_iff, List.isEmpty_iff, List.eq_nil_iff_forall_not_mem,
      List.eq_nil_iff_forall_not_mem]
    exact forall_congr' fun kind => not_congr (hmem kind)
  have hany : kinds.any SymbolKind.isMethodLike =
      site.possibleKinds.any SymbolKind.isMethodLike := by
    rw [Bool.eq_iff_iff, List.any_eq_true, List.any_eq_true]
    exact exists_congr fun kind => and_congr_left fun _ => hmem kind
  simp only [question?, hempty, hany]

end DeclarationSite

namespace RuleSet

/-- Two listings of a set of kinds suggest the same names, and if they have the same types in the same
order, ranks and repetitions apart, they suggest them for the same kinds and in the same order. -/
theorem suggest_congr_possibleKinds (p : RuleSet) (site : DeclarationSite) {kinds : List SymbolKind}
    (hmem : ∀ kind, kind ∈ kinds ↔ kind ∈ site.possibleKinds) :
    (∀ text, text ∈ (p.suggest { site with possibleKinds := kinds }).map Candidate.text ↔
      text ∈ (p.suggest site).map Candidate.text) ∧
    (distinct (kinds.filter SymbolKind.isType) =
        distinct (site.possibleKinds.filter SymbolKind.isType) →
      p.suggest { site with possibleKinds := kinds } = p.suggest site) := by
  unfold suggest
  rw [site.question?_congr hmem]
  cases site.question? with
  | none => exact ⟨fun text => Iff.rfl, fun _ => rfl⟩
  | some q =>
    constructor
    · intro text
      rw [mem_map_text_candidates, mem_map_text_candidates]
      exact exists_congr fun kind => and_congr_left fun _ => hmem kind
    · intro htypes
      show p.candidates { site with possibleKinds := kinds } (q.type.decompose q.asyncPhrases) =
        p.candidates site (q.type.decompose q.asyncPhrases)
      rw [candidates, candidates, ← distinctBy_flatMap_distinct Candidate.text _ (rankedKinds kinds),
        distinct_rankedKinds_congr hmem htypes, distinctBy_flatMap_distinct]
      rfl

/-- A class, a struct or a field, with the class given again where ranking does not merge it. -/
theorem suggest_congr_possibleKinds_class :
    ∃ (site : DeclarationSite) (kinds : List SymbolKind),
      (∀ kind, kind ∈ kinds ↔ kind ∈ site.possibleKinds) ∧
      distinct (kinds.filter SymbolKind.isType) =
        distinct (site.possibleKinds.filter SymbolKind.isType) ∧
      rankedKinds site.possibleKinds =
        [.field, .type .classType, .type .structType, .type .classType] ∧
      rankedKinds kinds = [.field, .type .classType, .type .structType] ∧
      builtin.suggest { site with possibleKinds := kinds } = builtin.suggest site ∧
      (builtin.suggest site).map Candidate.text =
        ["myClass".toList, "my".toList, "@class".toList, "MyClass".toList, "My".toList,
          "Class".toList] := by
  have hmem : ∀ kind : SymbolKind, kind ∈ [.field, .type .classType, .type .structType] ↔
      kind ∈ [.type .classType, .type .structType, .type .classType, .field] := by
    intro kind
    simp [or_comm, or_assoc, or_left_comm]
  have hkinds := suggest_congr_possibleKinds builtin
    { possibleKinds := [.type .classType, .type .structType, .type .classType, .field]
      type := some (.named { name := "MyClass".toList }) } hmem
  exact ⟨_, _, hmem, by decide, by decide, by decide, hkinds.2 (by decide), by decide +kernel⟩

end RuleSet

end Nomenclator
