import Nomenclator.Vocabulary.SymbolKind

/-!
# Ranking of symbol kinds

Names are offered for one kind of symbols after the other: fields, parameters, locals, properties,
events, type parameters, types, methods, local functions. The kinds of types rank alike and keep the
order in which they are given.

Main statements: `mem_rankedKinds` and `pairwise_rankedKinds`.
-/

namespace Nomenclator

/-- The rank of a kind; names for a smaller rank are offered first. -/
def SymbolKind.rank : SymbolKind → Nat
  | .field => 0
  | .parameter => 1
  | .localVariable => 2
  | .property => 3
  | .event => 4
  | .typeParameter => 5
  | .type _ => 6
  | .method => 7
  | .localFunction => 8

/-- How many ranks there are. -/
def rankCount : Nat := 9

/-- The kinds by rank, those of one rank in the order given. -/
def sortByRank (kinds : List SymbolKind) : List SymbolKind :=
  (List.range rankCount).flatMap fun rank => kinds.filter fun kind => kind.rank = rank

/-- The list with only one of several equal neighbours. -/
def mergeRepeats {α : Type} [DecidableEq α] : List α → List α
  | [] => []
  | [a] => [a]
  | a :: b :: l => if a = b then mergeRepeats (b :: l) else a :: mergeRepeats (b :: l)

/-- The kinds in the order in which names are offered for them. -/
def rankedKinds (kinds : List SymbolKind) : List SymbolKind := mergeRepeats (sortByRank kinds)

theorem SymbolKind.rank_lt (kind : SymbolKind) : kind.rank < rankCount := by
  cases kind <;> simp [SymbolKind.rank, rankCount]

theorem mem_sortByRank {kinds : List SymbolKind} {kind : SymbolKind} :
    kind ∈ sortByRank kinds ↔ kind ∈ kinds := by
  simp [sortByRank, SymbolKind.rank_lt]

theorem mem_mergeRepeats {α : Type} [DecidableEq α] {l : List α} {x : α} :
    x ∈ mergeRepeats l ↔ x ∈ l := by
  fun_induction mergeRepeats l with
  | case1 => rfl
  | case2 a => rfl
  | case3 b l ih => simp [ih]
  | case4 a b l h ih => simp [ih]

theorem mergeRepeats_sublist {α : Type} [DecidableEq α] (l : List α) :
    (mergeRepeats l).Sublist l := by
  fun_induction mergeRepeats l with
  | case1 => exact List.Sublist.slnil
  | case2 a => exact List.Sublist.refl _
  | case3 b l ih => exact ih.cons _
  | case4 a b l h ih => exact ih.cons_cons a

/-- Exactly the given kinds are ranked. -/
theorem mem_rankedKinds {kinds : List SymbolKind} {kind : SymbolKind} :
    kind ∈ rankedKinds kinds ↔ kind ∈ kinds :=
  mem_mergeRepeats.trans mem_sortByRank

/-- Ranks never fall along the sorted kinds. -/
theorem pairwise_sortByRank (kinds : List SymbolKind) :
    (sortByRank kinds).Pairwise fun a b => a.rank ≤ b.rank := by
  unfold sortByRank
  rw [List.pairwise_flatMap]
  constructor
  · intro rank _
    refine List.pairwise_of_forall_mem_list fun a ha b hb => ?_
    have h1 : a.rank = rank := by simpa using (List.mem_filter.1 ha).2
    have h2 : b.rank = rank := by simpa using (List.mem_filter.1 hb).2
    omega
  · refine List.pairwise_lt_range.imp fun {i j} hij a ha b hb => ?_
    have h1 : a.rank = i := by simpa using (List.mem_filter.1 ha).2
    have h2 : b.rank = j := by simpa using (List.mem_filter.1 hb).2
    omega

/-- Ranks never fall along the ranked kinds. -/
theorem pairwise_rankedKinds (kinds : List SymbolKind) :
    (rankedKinds kinds).Pairwise fun a b => a.rank ≤ b.rank :=
  (pairwise_sortByRank kinds).sublist (mergeRepeats_sublist _)

end Nomenclator
