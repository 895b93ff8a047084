import Mathlib.Tactic.Ring
import Nomenclator.Proofs.Text.Splitting
import Nomenclator.Uuid

/-!
# Identifiers are read as they are written

So many hexadecimal digits of a number spell its remainder by that power of sixteen
(`numberFrom?_hexDigits`); 32 of them spell an identifier. None of them is a hyphen, so the hyphenated
form is cut where it was joined, and it is read as the identifier that was written
(`parse?_render`).
-/

namespace Nomenclator.Uuid

/-! ## Hexadecimal digits -/

theorem digitValue?_digitChar : ∀ d < 16, digitValue? (Nat.digitChar d) = some d := by
  decide

theorem numberFrom?_append (m : Nat) (s t : Text) :
    numberFrom? m (s ++ t) = (numberFrom? m s).bind fun n => numberFrom? n t := by
  induction s generalizing m with
  | nil => rfl
  | cons c s ih =>
    rw [List.cons_append, numberFrom?, numberFrom?, Option.bind_assoc]
    exact congrArg _ (funext fun d => ih (16 * m + d))

@[simp] theorem length_hexDigits (n k : Nat) : (hexDigits n k).length = k := by
  induction k generalizing n with
  | zero => rfl
  | succ k ih => rw [hexDigits, List.length_append, ih, List.length_singleton]

/-- The digits of a number are read behind those of another. -/
theorem numberFrom?_hexDigits (m n k : Nat) :
    numberFrom? m (hexDigits n k) = some (m * 16 ^ k + n % 16 ^ k) := by
  induction k generalizing n with
  | zero => simp [hexDigits, numberFrom?, Nat.mod_one]
  | succ k ih =>
    have hdigit : digitValue? (Nat.digitChar (n % 16)) = some (n % 16) :=
      digitValue?_digitChar (n % 16) (Nat.mod_lt n (by omega))
    have hmod : n % 16 ^ (k + 1) = n % 16 + 16 * (n / 16 % 16 ^ k) := by
      rw [Nat.pow_succ, Nat.mul_comm, Nat.mod_mul]
    rw [hexDigits, numberFrom?_append, ih, Option.bind_some, numberFrom?, hdigit, Option.bind_some,
      numberFrom?, hmod, Nat.pow_succ]
    congr 1
    ring

/-- Every digit has a value. -/
theorem digitValue?_isSome_of_mem_hexDigits {n k : Nat} {c : Char} (h : c ∈ hexDigits n k) :
    (digitValue? c).isSome = true := by
  induction k generalizing n with
  | zero => cases h
  | succ k ih =>
    rcases List.mem_append.1 h with h | h
    · exact ih h
    · rw [List.mem_singleton.1 h, digitValue?_digitChar _ (Nat.mod_lt n (by omega))]
      rfl

/-! ## The hyphenated form -/

/-- The groups of digits of the hyphenated form. -/
def groups (digits : Text) : List Text :=
  [digits.take 8, (digits.drop 8).take 4, (digits.drop 12).take 4, (digits.drop 16).take 4,
    digits.drop 20]

theorem render_eq (id : Uuid) :
    id.render = Text.joinWith ['-'] (groups (hexDigits id.bits.toNat 32)) := rfl

theorem flatten_groups (digits : Text) : (groups digits).flatten = digits := by
  have hjoin : ∀ m n, (digits.drop m).take n ++ digits.drop (m + n) = digits.drop m := by
    intro m n
    rw [← List.drop_drop, List.take_append_drop]
  simp only [groups, List.flatten_cons, List.flatten_nil, List.append_nil]
  rw [hjoin 16 4, hjoin 12 4, hjoin 8 4, List.take_append_drop]

theorem subset_of_mem_groups {digits group : Text} (h : group ∈ groups digits) :
    group ⊆ digits := by
  intro c hc
  rw [← flatten_groups digits]
  exact List.mem_flatten.2 ⟨group, h, hc⟩

/-- The hyphenated form is cut where it was joined. -/
theorem splitOn_render (id : Uuid) :
    Text.splitOn '-' id.render = groups (hexDigits id.bits.toNat 32) := by
  rw [render_eq]
  refine Text.splitOn_joinWith (by simp [groups]) fun group hgroup hmem => ?_
  have hdigit : (digitValue? '-').isSome = true :=
    digitValue?_isSome_of_mem_hexDigits (subset_of_mem_groups hgroup hmem)
  exact absurd hdigit (by decide)

theorem ofDigits?_hexDigits (id : Uuid) : ofDigits? (hexDigits id.bits.toNat 32) = some id := by
  have hlt : id.bits.toNat < 16 ^ 32 := id.bits.isLt
  rw [ofDigits?, if_pos (length_hexDigits _ _), numberFrom?_hexDigits, Nat.mod_eq_of_lt hlt]
  simp [ofNat]

theorem ofHyphenated?_render (id : Uuid) : ofHyphenated? id.render = some id := by
  have hflatten : (groups (hexDigits id.bits.toNat 32)).flatten = hexDigits id.bits.toNat 32 :=
    flatten_groups _
  rw [ofHyphenated?, splitOn_render]
  simp only [groups, List.flatten_cons, List.flatten_nil, List.append_nil] at hflatten ⊢
  rw [if_pos (by simp), List.append_assoc, List.append_assoc, List.append_assoc, hflatten,
    ofDigits?_hexDigits]

theorem length_render (id : Uuid) : id.render.length = 36 := by
  simp [render, Text.joinWith]

/-- An identifier is read as it is written. -/
theorem parse?_render (id : Uuid) : parse? id.render = some id := by
  rw [parse?, length_render, if_neg (by decide), if_pos rfl, ofHyphenated?_render]

end Nomenclator.Uuid
