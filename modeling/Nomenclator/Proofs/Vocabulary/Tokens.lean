import Nomenclator.Proofs.Distinct
import Nomenclator.Proofs.Text.Splitting
import Nomenclator.Proofs.Unicode.WhiteSpace
import Nomenclator.Vocabulary.Modifier
import Nomenclator.Vocabulary.SymbolKind

/-!
# Lists of tokens

A token resolves to what the first row of a table is about that it spells, but for ASCII case and the
white space around it (`Vocabulary.Resolves`). A comma-separated value that is not the wildcard is read as
the things that its entries resolve to, each one once and in the order in which the entries first name
them (`Vocabulary.ListsEntries`). These three things determine the list, and they hold for any table, also
for one that spells a thing in two rows or two things alike.

In a part of a table an entry names what it names in the whole, if that is in the part, provided that no
two rows share a spelling (`Vocabulary.resolveEntries_filter`). So the modifiers that a rule may ask for
can be read by themselves, or picked from all the modifiers that are named.

Main statement: `Vocabulary.parseTokensIn_spec`.
-/

namespace Nomenclator

namespace Vocabulary

variable {α : Type}

/-! ## Entries -/

/-- The text is a spelling of the row, but for ASCII case. -/
def IsSpelling (t : Text) (row : TokenRow α) : Prop :=
  ∃ s ∈ row.canonical :: row.aliases, Text.lowerAscii s.toList = Text.lowerAscii t

theorem spells_iff {t : Text} {row : TokenRow α} : row.spells t = true ↔ IsSpelling t row := by
  simp only [TokenRow.spells, IsSpelling, List.any_eq_true, Text.eqIgnoringCase, beq_iff_eq]

/-- In the table, the entry resolves to this: it is a spelling of a row about it, and of no row before
that one. -/
def Resolves (table : List (TokenRow α)) (entry : Text) (a : α) : Prop :=
  ∃ before row behind, table = before ++ row :: behind ∧ row.id = a ∧
    IsSpelling (Unicode.trim entry) row ∧ ∀ b ∈ before, ¬ IsSpelling (Unicode.trim entry) b

theorem lookupIn?_eq_some_iff {table : List (TokenRow α)} {entry : Text} {a : α} :
    lookupIn? table entry = some a ↔ Resolves table entry a := by
  simp only [lookupIn?, Option.map_eq_some_iff, List.find?_eq_some_iff_append, Resolves, ← spells_iff,
    Bool.not_eq_true, Bool.not_eq_true']
  constructor
  · rintro ⟨row, ⟨hspells, before, behind, hsplit, hbefore⟩, hid⟩
    exact ⟨before, row, behind, hsplit, hid, hspells, hbefore⟩
  · rintro ⟨before, row, behind, hsplit, hid, hspells, hbefore⟩
    exact ⟨row, ⟨hspells, before, behind, hsplit, hbefore⟩, hid⟩

/-! ## Lists of entries -/

/-- An entry resolves to the one, and no entry before it resolves to the other. -/
def ComesFirst (table : List (TokenRow α)) (entries : List Text) (a b : α) : Prop :=
  ∃ before entry behind, entries = before ++ entry :: behind ∧ Resolves table entry a ∧
    ∀ e ∈ before, ¬ Resolves table e b

/-- The list holds what the entries resolve to in the table, each thing once and in the order in which
the entries first resolve to them. -/
structure ListsEntries (table : List (TokenRow α)) (entries : List Text) (l : List α) : Prop where
  nodup : l.Nodup
  mem_iff : ∀ a, a ∈ l ↔ ∃ entry ∈ entries, Resolves table entry a
  ordered : l.Pairwise (ComesFirst table entries)

theorem listsEntries_resolveEntries [DecidableEq α] (table : List (TokenRow α))
    (entries : List Text) : ListsEntries table entries (resolveEntries table entries) where
  nodup := distinct_nodup _
  mem_iff a := by
    simp only [resolveEntries, mem_distinct, List.mem_filterMap, lookupIn?_eq_some_iff]
  ordered := by
    refine (distinct_pairwise _).imp ?_
    rintro a b ⟨before, behind, hsplit, hb⟩
    obtain ⟨front, rest, rfl, rfl, hrest⟩ := List.filterMap_eq_append_iff.1 hsplit
    obtain ⟨skipped, entry, back, rfl, hskipped, hentry, -⟩ := List.filterMap_eq_cons_iff.1 hrest
    refine ⟨front ++ skipped, entry, back, by simp, lookupIn?_eq_some_iff.1 hentry, ?_⟩
    intro e he hresolves
    rw [← lookupIn?_eq_some_iff] at hresolves
    rcases List.mem_append.1 he with he | he
    · exact hb (List.mem_filterMap.2 ⟨e, he, hresolves⟩)
    · rw [hskipped e he] at hresolves
      cases hresolves

/-! ## Parts of a table -/

/-- No text is a spelling of two rows. -/
def Unambiguous (table : List (TokenRow α)) : Prop :=
  ∀ a ∈ table, ∀ b ∈ table, ∀ t, IsSpelling t a → IsSpelling t b → a = b

section Unambiguous

variable {table : List (TokenRow α)} (h : Unambiguous table)
include h

theorem Unambiguous.filter (keep : TokenRow α → Bool) : Unambiguous (table.filter keep) :=
  fun a ha b hb => h a (List.mem_of_mem_filter ha) b (List.mem_of_mem_filter hb)

/-- What an entry resolves to does not depend on the order of the rows. -/
theorem Unambiguous.resolves_iff {entry : Text} {a : α} :
    Resolves table entry a ↔ ∃ row ∈ table, row.id = a ∧ IsSpelling (Unicode.trim entry) row := by
  constructor
  · rintro ⟨before, row, behind, rfl, hid, hspelling, -⟩
    exact ⟨row, by simp, hid, hspelling⟩
  · rintro ⟨row, hrow, hid, hspelling⟩
    obtain ⟨before, behind, hsplit, hbefore⟩ := List.eq_append_cons_of_mem hrow
    refine ⟨before, row, behind, hsplit, hid, hspelling, fun b hb hother => ?_⟩
    have hmem : b ∈ table := by
      rw [hsplit]
      exact List.mem_append_left _ hb
    rw [h b hmem row hrow _ hother hspelling] at hb
    exact hbefore hb

/-- An entry resolves in a part of the table to what it resolves to in the whole, if that is in the
part. -/
theorem lookupIn?_filter (keep : α → Bool) (entry : Text) :
    lookupIn? (table.filter fun row => keep row.id) entry = (lookupIn? table entry).filter keep := by
  refine Option.ext fun a => ?_
  rw [Option.filter_eq_some_iff, lookupIn?_eq_some_iff, lookupIn?_eq_some_iff, h.resolves_iff,
    (h.filter _).resolves_iff]
  constructor
  · rintro ⟨row, hrow, rfl, hspelling⟩
    obtain ⟨hmem, hkeep⟩ := List.mem_filter.1 hrow
    exact ⟨⟨row, hmem, rfl, hspelling⟩, hkeep⟩
  · rintro ⟨⟨row, hmem, rfl, hspelling⟩, hkeep⟩
    exact ⟨row, List.mem_filter.2 ⟨hmem, hkeep⟩, rfl, hspelling⟩

/-- What the entries name in a part of the table can be picked from what they name in the whole. -/
theorem resolveEntries_filter [DecidableEq α] (keep : α → Bool) (entries : List Text) :
    resolveEntries (table.filter fun row => keep row.id) entries =
      (resolveEntries table entries).filter keep := by
  have hlookup : lookupIn? (table.filter fun row => keep row.id) =
      fun e => (lookupIn? table e).filter keep :=
    funext (lookupIn?_filter h keep)
  have htest : ∀ a b : α, id a = id b → keep a = keep b := by
    rintro a _ rfl
    rfl
  unfold resolveEntries
  rw [hlookup, ← List.filter_filterMap]
  exact distinctBy_filter htest _

end Unambiguous

/-! ## The wildcard -/

/-- A value that is the wildcard, but for white space, has one entry. -/
theorem splitOn_of_trim_eq_wildcard {value : Text} (h : Unicode.trim value = wildcard.toList) :
    Text.splitOn ',' value = [value] := by
  have hcomma : ',' ∉ value := by
    intro hmem
    obtain ⟨front, back, rfl⟩ := List.append_of_mem hmem
    rw [Unicode.trim_append_cons (by decide)] at h
    have hself : ',' ∈ wildcard.toList := by
      rw [← h]
      simp
    exact absurd hself (by decide)
  rw [Text.splitOn_eq_splitOnText, Text.splitOnText_of_not_mem hcomma]

variable [DecidableEq α]

theorem parseTokensIn_of_ne {value : Text} (h : Unicode.trim value ≠ wildcard.toList)
    (table : List (TokenRow α)) : parseTokensIn table value =
      .some (resolveEntries table (Text.splitOn ',' value)) :=
  if_neg h

end Vocabulary

/-! ## Required modifiers -/

namespace Modifier

open Vocabulary

theorem unambiguous_table : Unambiguous (table : List (TokenRow Modifier)) := by
  have hspellings : ∀ a ∈ (table : List (TokenRow Modifier)), ∀ b ∈ (table : List (TokenRow Modifier)),
      ∀ s ∈ a.canonical :: a.aliases, ∀ r ∈ b.canonical :: b.aliases,
        Text.lowerAscii s.toList = Text.lowerAscii r.toList → a = b := by
    decide +kernel
  rintro a ha b hb t ⟨s, hs, hst⟩ ⟨r, hr, hrt⟩
  exact hspellings a ha b hb s hs r hr (hst.trans hrt.symm)

/-- The wildcard spells no modifier. -/
theorem resolveEntries_of_trim_eq_wildcard {value : Text}
    (h : Unicode.trim value = wildcard.toList) :
    resolveEntries (table : List (TokenRow Modifier)) (Text.splitOn ',' value) = [] := by
  have hnone : lookupIn? (table : List (TokenRow Modifier)) value = none := by
    rw [lookupIn?, h]
    decide +kernel
  rw [splitOn_of_trim_eq_wildcard h, resolveEntries, List.filterMap_cons_none hnone]
  rfl

/-- The modifiers that a value asks for are the requirable ones among all modifiers that its entries
name. -/
theorem parseRequired_eq_filter (value : Text) : parseRequired value =
    (resolveEntries (table : List (TokenRow Modifier)) (Text.splitOn ',' value)).filter
      isRequirable := by
  unfold parseRequired
  by_cases hwildcard : Unicode.trim value = wildcard.toList
  · rw [parseTokensIn_eq_all_iff.2 hwildcard, resolveEntries_of_trim_eq_wildcard hwildcard]
    rfl
  · rw [parseTokensIn_of_ne hwildcard, requirable_eq_filter,
      resolveEntries_filter unambiguous_table isRequirable]

end Modifier

namespace Vocabulary

/-- Only the wildcard is read as a whole table. Any other value is read as the list of what its entries
resolve to. The modifiers that a value asks for are the requirable ones in the list of all modifiers that
its entries resolve to, and of the wildcard there are none. -/
theorem parseTokensIn_spec {α : Type} [DecidableEq α] (rows : List (TokenRow α)) (value : Text) :
    (parseTokensIn rows value = .all ↔ Unicode.trim value = wildcard.toList) ∧
    (Unicode.trim value ≠ wildcard.toList → ∃ l, parseTokensIn rows value = .some l ∧
      ListsEntries rows (Text.splitOn ',' value) l) ∧
    (∃ l : List Modifier, ListsEntries table (Text.splitOn ',' value) l ∧
      Modifier.parseRequired value = l.filter Modifier.isRequirable) ∧
    (Unicode.trim value = wildcard.toList → Modifier.parseRequired value = []) := by
  refine ⟨parseTokensIn_eq_all_iff, fun h => ?_, ?_, fun h => ?_⟩
  · exact ⟨_, parseTokensIn_of_ne h rows, listsEntries_resolveEntries _ _⟩
  · exact ⟨_, listsEntries_resolveEntries _ _, Modifier.parseRequired_eq_filter value⟩
  · rw [Modifier.parseRequired_eq_filter, Modifier.resolveEntries_of_trim_eq_wildcard h,
      List.filter_nil]

/-- A table with two rows for fields; the second shares a spelling with a row before it. -/
def fieldTable : List (TokenRow SymbolKind) :=
  [⟨.field, "field", ["member"], ""⟩, ⟨.property, "property", [], ""⟩,
    ⟨.field, "slot", ["Property"], ""⟩]

/-- A property, a token that spells nothing, and a field by either of its rows. -/
def fieldTokens : Text := "PROPERTY,slot, none,member".toList

/-- Two modifiers that may be asked for, one of them twice, one that may not, and a token that spells
nothing. -/
def mixedModifiers : Text := "Shared, virtual,loud , static,must_inherit".toList

/-- The two rows are about one field, and the spelling that the second shares is that of the property. Of
the five entries of the other value three name a modifier for the first time, and two of these may be
asked for. -/
theorem parseTokensIn_spec_mixedModifiers :
    (Unicode.trim fieldTokens ≠ wildcard.toList ∧
      ∃ l : List SymbolKind, l = [.property, .field] ∧
        parseTokensIn fieldTable fieldTokens = .some l ∧
        ListsEntries fieldTable (Text.splitOn ',' fieldTokens) l) ∧
    (Unicode.trim mixedModifiers ≠ wildcard.toList ∧
      ∃ l : List Modifier, l = [.static, .virtual, .abstract] ∧
        parseTokensIn table mixedModifiers = .some l ∧
        ListsEntries table (Text.splitOn ',' mixedModifiers) l) ∧
    Modifier.parseRequired mixedModifiers = [.static, .abstract] ∧
    (Unicode.trim " * ".toList = wildcard.toList ∧ Modifier.parseRequired " * ".toList = []) := by
  have hwildcard : Unicode.trim " * ".toList = wildcard.toList := by decide
  refine ⟨?_, ?_, by decide +kernel, hwildcard, (parseTokensIn_spec fieldTable _).2.2.2 hwildcard⟩
  · have hne : Unicode.trim fieldTokens ≠ wildcard.toList := by decide +kernel
    have hlist : parseTokensIn fieldTable fieldTokens = .some [.property, .field] := by
      decide +kernel
    obtain ⟨l, hl, hlists⟩ := (parseTokensIn_spec fieldTable fieldTokens).2.1 hne
    obtain rfl : l = [.property, .field] := TokenList.some.inj (hl.symm.trans hlist)
    exact ⟨hne, _, rfl, hl, hlists⟩
  · have hne : Unicode.trim mixedModifiers ≠ wildcard.toList := by decide +kernel
    have hlist : parseTokensIn (table : List (TokenRow Modifier)) mixedModifiers =
        .some [.static, .virtual, .abstract] := by decide +kernel
    obtain ⟨l, hl, hlists⟩ :=
      (parseTokensIn_spec (table : List (TokenRow Modifier)) mixedModifiers).2.1 hne
    obtain rfl : l = [.static, .virtual, .abstract] := TokenList.some.inj (hl.symm.trans hlist)
    exact ⟨hne, _, rfl, hl, hlists⟩

end Vocabulary

end Nomenclator
