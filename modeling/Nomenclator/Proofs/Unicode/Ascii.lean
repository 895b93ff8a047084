import Mathlib.Tactic.MkIffOfInductiveProp
import Nomenclator.Unicode.CaseMapping
import Nomenclator.Word.Breaking

/-!
# ASCII texts

Among the 128 ASCII characters the case mappings and the classes of the word breaker are what one
expects: a letter maps to one letter, the two cases of a letter map to each other, and all other
characters stay as they are. So casing an ASCII text is casing its characters one by one, and the
rule for the final sigma never applies.

What casing does to a single character is said by `CasedPlainly` and settled once, by going through the
128 characters (`casedPlainly_of_lt`).
-/

namespace Nomenclator

/-- All characters of the text are ASCII characters. -/
def Text.IsAscii (t : Text) : Prop := ∀ c ∈ t, c.toNat < 128

namespace Text

theorem isAscii_nil : IsAscii [] := by
  intro c hc
  cases hc

theorem isAscii_cons {c : Char} {t : Text} : IsAscii (c :: t) ↔ c.toNat < 128 ∧ IsAscii t := by
  simp [IsAscii]

theorem isAscii_append {s t : Text} : IsAscii (s ++ t) ↔ IsAscii s ∧ IsAscii t := by
  simp only [IsAscii, List.mem_append]
  constructor
  · exact fun h => ⟨fun c hc => h c (Or.inl hc), fun c hc => h c (Or.inr hc)⟩
  · rintro ⟨hs, ht⟩ c (hc | hc)
    · exact hs c hc
    · exact ht c hc

end Text

namespace Unicode

/-! ## Single characters -/

/-- What holds of the first 128 code points holds of the ASCII characters. -/
theorem forall_ascii {P : Char → Prop} (h : ∀ n < 128, P (Char.ofNat n)) {c : Char}
    (hc : c.toNat < 128) : P c := by
  simpa [Char.ofNat_toNat] using h c.toNat hc

/-- The case mappings do to the character what one expects of an ASCII character. -/
@[mk_iff]
structure CasedPlainly (c : Char) : Prop where
  upper_eq : upper c = [c.toUpper]
  lower_eq : lower c = [c.toLower]
  toUpper_lt : c.toUpper.toNat < 128
  toLower_lt : c.toLower.toNat < 128
  /-- A small letter becomes a capital; no other character changes its class. -/
  class_toUpper : CharClass.of c.toUpper =
    if CharClass.of c = .lower then .upper else CharClass.of c
  /-- A capital becomes a small letter; no other character changes its class. -/
  class_toLower : CharClass.of c.toLower =
    if CharClass.of c = .upper then .lower else CharClass.of c
  toUpper_eq_self : CharClass.of c ≠ .lower → c.toUpper = c
  toLower_eq_self : CharClass.of c ≠ .upper → c.toLower = c
  toLower_toLower : c.toLower.toLower = c.toLower
  toLower_toUpper : c.toUpper.toLower = c.toLower

instance (c : Char) : Decidable (CasedPlainly c) := decidable_of_iff _ (casedPlainly_iff c).symm

theorem casedPlainly_of_lt {c : Char} (hc : c.toNat < 128) : CasedPlainly c :=
  forall_ascii (by decide +kernel) hc

theorem upper_ascii {c : Char} (hc : c.toNat < 128) : upper c = [c.toUpper] :=
  (casedPlainly_of_lt hc).upper_eq

theorem lower_ascii {c : Char} (hc : c.toNat < 128) : lower c = [c.toLower] :=
  (casedPlainly_of_lt hc).lower_eq

theorem toUpper_lt {c : Char} (hc : c.toNat < 128) : c.toUpper.toNat < 128 :=
  (casedPlainly_of_lt hc).toUpper_lt

theorem toLower_lt {c : Char} (hc : c.toNat < 128) : c.toLower.toNat < 128 :=
  (casedPlainly_of_lt hc).toLower_lt

/-- A character outside ASCII has no small form among the ASCII letters. -/
theorem toLower_eq_self_of_ge {c : Char} (hc : 128 ≤ c.toNat) : c.toLower = c := by
  unfold Char.toLower
  rw [dif_neg]
  rintro ⟨-, hle⟩
  have hle' := UInt32.le_iff_toNat_le.1 hle
  exact absurd (Nat.le_trans hc hle') (by decide)

theorem toLower_lt_iff {c : Char} : c.toLower.toNat < 128 ↔ c.toNat < 128 := by
  rcases Nat.lt_or_ge c.toNat 128 with hc | hc
  · exact iff_of_true (toLower_lt hc) hc
  · rw [toLower_eq_self_of_ge hc]

theorem class_toUpper {c : Char} (hc : c.toNat < 128) :
    CharClass.of c.toUpper =
      if CharClass.of c = .lower then .upper else CharClass.of c :=
  (casedPlainly_of_lt hc).class_toUpper

theorem class_toLower {c : Char} (hc : c.toNat < 128) :
    CharClass.of c.toLower =
      if CharClass.of c = .upper then .lower else CharClass.of c :=
  (casedPlainly_of_lt hc).class_toLower

theorem toUpper_eq_self {c : Char} (hc : c.toNat < 128) (h : CharClass.of c ≠ .lower) :
    c.toUpper = c :=
  (casedPlainly_of_lt hc).toUpper_eq_self h

theorem toLower_eq_self {c : Char} (hc : c.toNat < 128) (h : CharClass.of c ≠ .upper) :
    c.toLower = c :=
  (casedPlainly_of_lt hc).toLower_eq_self h

theorem toLower_toLower {c : Char} (hc : c.toNat < 128) : c.toLower.toLower = c.toLower :=
  (casedPlainly_of_lt hc).toLower_toLower

theorem toLower_toUpper {c : Char} (hc : c.toNat < 128) : c.toUpper.toLower = c.toLower :=
  (casedPlainly_of_lt hc).toLower_toUpper

/-! ## Texts -/

theorem lowercaseAfter_ascii {t : Text} (ht : t.IsAscii) (before : Text) :
    lowercaseAfter before t = t.map Char.toLower := by
  induction t generalizing before with
  | nil => rfl
  | cons c t ih =>
    obtain ⟨hc, ht⟩ := Text.isAscii_cons.1 ht
    have hsigma : c ≠ 'Σ' := by
      rintro rfl
      exact absurd hc (by decide)
    rw [lowercaseAfter, if_neg hsigma, lower_ascii hc, ih ht]
    rfl

/-- Lowering an ASCII text lowers its characters. -/
theorem lowercase_ascii {t : Text} (ht : t.IsAscii) : lowercase t = t.map Char.toLower :=
  lowercaseAfter_ascii ht []

/-- Raising an ASCII text raises its characters. -/
theorem uppercase_ascii {t : Text} (ht : t.IsAscii) : uppercase t = t.map Char.toUpper := by
  induction t with
  | nil => rfl
  | cons c t ih =>
    obtain ⟨hc, ht⟩ := Text.isAscii_cons.1 ht
    have htail := ih ht
    simp only [uppercase] at htail
    simp [uppercase, upper_ascii hc, htail]

theorem lowercase_eq_self {t : Text} (ht : t.IsAscii) (h : ∀ c ∈ t, CharClass.of c ≠ .upper) :
    lowercase t = t := by
  rw [lowercase_ascii ht]
  calc t.map Char.toLower = t.map id :=
        List.map_congr_left fun c hc => toLower_eq_self (ht c hc) (h c hc)
    _ = t := List.map_id t

theorem uppercase_eq_self {t : Text} (ht : t.IsAscii) (h : ∀ c ∈ t, CharClass.of c ≠ .lower) :
    uppercase t = t := by
  rw [uppercase_ascii ht]
  calc t.map Char.toUpper = t.map id :=
        List.map_congr_left fun c hc => toUpper_eq_self (ht c hc) (h c hc)
    _ = t := List.map_id t

end Unicode

end Nomenclator
