import Nomenclator.Vocabulary.Modifier

/-!
# Sets of modifiers

The modifiers written on a declaration are a set: neither their order nor a repetition matters. The
members are kept in a row of sixteen bits, of which each modifier has one.

A row can have more bits set than modifiers have. Such a row is not clean: its listing misses those
bits, so it is not the set of its own listing (`ModifierMask.ofList_toList_iff`). No operation makes
a clean row unclean, and a `ModifierSet` carries the fact that its row is clean.

Main statements: `ModifierMask.contains_adding` and `ModifierMask.contains_ofList` say what the
operations do to membership, and `ModifierMask.IsClean.ext_contains` says that membership determines
a clean row.
-/

namespace Nomenclator

/-- A row of sixteen bits: the bit at a modifier's index says whether it is a member. -/
structure ModifierMask where
  bits : BitVec 16
  deriving DecidableEq, Repr

namespace ModifierMask

/-- The row without a bit. -/
def empty : ModifierMask := ⟨0#16⟩

/-- The modifier is a member. -/
def contains (s : ModifierMask) (m : Modifier) : Bool := s.bits &&& m.bit != 0#16

/-- Another row, which has one more member. -/
def adding (s : ModifierMask) (m : Modifier) : ModifierMask := ⟨s.bits ||| m.bit⟩

/-- The row itself with one more member put into it. -/
def insert (s : ModifierMask) (m : Modifier) : ModifierMask := { s with bits := s.bits ||| m.bit }

/-- The row of the listed modifiers. -/
def ofList (ms : List Modifier) : ModifierMask := ms.foldl adding empty

/-- The members in the order of the vocabulary. -/
def toList (s : ModifierMask) : List Modifier := Vocabulary.entries.filter s.contains

/-- No bit is set. -/
def isEmpty (s : ModifierMask) : Bool := s.bits == 0#16

/-- Only bits of modifiers are set. -/
def IsClean (s : ModifierMask) : Prop :=
  ∀ i, s.bits.getLsbD i = true → ∃ m : Modifier, m.index = i

/-! ## Members -/

theorem contains_eq_getLsbD (s : ModifierMask) (m : Modifier) :
    s.contains m = s.bits.getLsbD m.index := by
  have hbit : m.bit = BitVec.twoPow 16 m.index := (BitVec.twoPow_eq 16 m.index).symm
  have hne : BitVec.twoPow 16 m.index ≠ 0#16 := by
    intro heq
    have hget : (BitVec.twoPow 16 m.index).getLsbD m.index = false := by
      rw [heq, BitVec.getLsbD_zero]
    simp [m.index_lt] at hget
  rw [contains, hbit, BitVec.and_twoPow]
  by_cases hget : s.bits.getLsbD m.index = true
  · simp [hget, hne]
  · simp [hget]

@[simp] theorem contains_empty (m : Modifier) : empty.contains m = false := by
  simp [contains_eq_getLsbD, empty]

@[simp] theorem contains_adding (s : ModifierMask) (m x : Modifier) :
    (s.adding m).contains x = (s.contains x || decide (m = x)) := by
  have hindex : m.index = x.index ↔ m = x := ⟨Modifier.index_injective, fun h => by rw [h]⟩
  simp [contains_eq_getLsbD, adding, hindex]

/-- A row changed in place has the members that a copy with one more has. -/
theorem insert_eq_adding (s : ModifierMask) (m : Modifier) : s.insert m = s.adding m := rfl

theorem contains_foldl_adding (ms : List Modifier) (s : ModifierMask) (x : Modifier) :
    (ms.foldl adding s).contains x = (s.contains x || decide (x ∈ ms)) := by
  induction ms generalizing s with
  | nil => simp
  | cons m ms ih => simp [ih, eq_comm, Bool.or_assoc]

@[simp] theorem contains_ofList (ms : List Modifier) (x : Modifier) :
    (ofList ms).contains x = decide (x ∈ ms) := by
  simp [ofList, contains_foldl_adding]

@[simp] theorem mem_toList {s : ModifierMask} {m : Modifier} :
    m ∈ s.toList ↔ s.contains m = true := by
  simp [toList, Modifier.mem_entries]

/-! ## Clean rows -/

theorem isClean_empty : empty.IsClean := by
  intro i hbit
  simp [empty] at hbit

theorem IsClean.adding {s : ModifierMask} (h : s.IsClean) (m : Modifier) :
    (s.adding m).IsClean := by
  intro i hbit
  rw [ModifierMask.adding, BitVec.getLsbD_or, Bool.or_eq_true, Modifier.getLsbD_bit,
    decide_eq_true_iff] at hbit
  rcases hbit with hbit | hindex
  · exact h i hbit
  · exact ⟨m, hindex⟩

theorem IsClean.insert {s : ModifierMask} (h : s.IsClean) (m : Modifier) :
    (s.insert m).IsClean :=
  h.adding m

theorem IsClean.foldl_adding {s : ModifierMask} (h : s.IsClean) (ms : List Modifier) :
    (ms.foldl ModifierMask.adding s).IsClean := by
  induction ms generalizing s with
  | nil => exact h
  | cons m ms ih => exact ih (h.adding m)

theorem isClean_ofList (ms : List Modifier) : (ofList ms).IsClean :=
  isClean_empty.foldl_adding ms

/-- The bits of a clean row are those of its members. -/
theorem IsClean.getLsbD_iff {s : ModifierMask} (h : s.IsClean) {i : Nat} :
    s.bits.getLsbD i = true ↔ ∃ m : Modifier, m.index = i ∧ s.contains m = true := by
  constructor
  · intro hbit
    obtain ⟨m, rfl⟩ := h i hbit
    exact ⟨m, rfl, by rwa [contains_eq_getLsbD]⟩
  · rintro ⟨m, rfl, hm⟩
    rwa [contains_eq_getLsbD] at hm

/-- Clean rows with the same members are equal. -/
theorem IsClean.ext_contains {s t : ModifierMask} (hs : s.IsClean) (ht : t.IsClean)
    (h : ∀ m, s.contains m = t.contains m) : s = t := by
  have hbits : s.bits = t.bits := by
    apply BitVec.eq_of_getLsbD_eq
    intro i _
    rw [Bool.eq_iff_iff, hs.getLsbD_iff, ht.getLsbD_iff]
    simp only [h]
  obtain ⟨a⟩ := s
  obtain ⟨b⟩ := t
  exact congrArg ModifierMask.mk hbits

/-- A row is the row of its members exactly if it is clean: a bit that stands for no modifier is not
listed, and so it is lost. -/
theorem ofList_toList_iff {s : ModifierMask} : ofList s.toList = s ↔ s.IsClean := by
  constructor
  · intro heq
    rw [← heq]
    exact isClean_ofList s.toList
  · intro hs
    refine (isClean_ofList s.toList).ext_contains hs fun m => ?_
    rw [contains_ofList, Bool.eq_iff_iff, decide_eq_true_iff, mem_toList]

/-- The ninth bit is no modifier's. -/
example : ofList (toList ⟨0x100#16⟩) = empty := by decide

end ModifierMask

/-- A set of modifiers: a row of bits in which only those of modifiers are set. -/
structure ModifierSet where
  mask : ModifierMask
  isClean : mask.IsClean
  deriving DecidableEq

namespace ModifierSet

/-- The set of no modifiers. -/
def empty : ModifierSet := ⟨.empty, ModifierMask.isClean_empty⟩

instance : Inhabited ModifierSet := ⟨empty⟩

instance : Repr ModifierSet := ⟨fun s => reprPrec s.mask⟩

/-- The modifier is a member. -/
def contains (s : ModifierSet) (m : Modifier) : Bool := s.mask.contains m

/-- The set with one more member. -/
def insert (s : ModifierSet) (m : Modifier) : ModifierSet := ⟨s.mask.insert m, s.isClean.insert m⟩

/-- The set of the listed modifiers. -/
def ofList (ms : List Modifier) : ModifierSet := ⟨.ofList ms, ModifierMask.isClean_ofList ms⟩

/-- The members in the order of the vocabulary. -/
def toList (s : ModifierSet) : List Modifier := s.mask.toList

/-- The set has no members. -/
def isEmpty (s : ModifierSet) : Bool := s.mask.isEmpty

/-- The tokens of the members, with a blank between them. -/
def render (s : ModifierSet) : Text :=
  Text.joinWith [' '] (s.toList.map fun m => m.canonical.toList)

@[simp] theorem contains_ofList (ms : List Modifier) (x : Modifier) :
    (ofList ms).contains x = decide (x ∈ ms) :=
  ModifierMask.contains_ofList ms x

@[simp] theorem mem_toList {s : ModifierSet} {m : Modifier} :
    m ∈ s.toList ↔ s.contains m = true :=
  ModifierMask.mem_toList

/-- A set is the set of its members. -/
theorem ofList_toList (s : ModifierSet) : ofList s.toList = s := by
  obtain ⟨mask, hclean⟩ := s
  simp only [ofList, toList, ModifierMask.ofList_toList_iff.2 hclean]

end ModifierSet

end Nomenclator
