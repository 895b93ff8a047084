import Nomenclator.Config.Setting
import Nomenclator.Proofs.Text.Splitting

/-!
# What the lines of a configuration assign

The reader goes through the lines one by one. What it finds can be said of the text as a whole: it is
the keys that are named, with their values, in the order of the lines (`assignments`,
`values_ofText`). A key that is named is spelled by its family and its group (`exists_eq_of_parse?`).
-/

namespace Nomenclator.Config

/-- The key and the value of a key line. -/
def Line.assignment? : Line → Option (Key × Text)
  | .setting key value => some (key, value)
  | _ => none

/-- The keys and values of the key lines of a text, in order. -/
def assignments (t : Text) : List (Key × Text) :=
  (Text.lines t).filterMap fun line => (Line.read line).assignment?

/-! ## Reading line by line -/

theorem values_add (s : Settings) (number : Nat) (line : Line) :
    (s.add number line).values = s.values ++ line.assignment?.toList := by
  cases line with
  | silent | unassigned | setting => simp [Settings.add, Line.assignment?]
  | showNameSuggestions value =>
    simp only [Settings.add, Line.assignment?]
    split <;> simp

theorem values_addLines (s : Settings) (number : Nat) (lines : List Text) :
    (s.addLines number lines).values =
      s.values ++ lines.filterMap fun line => (Line.read line).assignment? := by
  induction lines generalizing s number with
  | nil => simp [Settings.addLines]
  | cons line lines ih =>
    rw [Settings.addLines, ih, values_add, List.append_assoc]
    congr 1
    cases h : (Line.read line).assignment? <;> simp [h]

theorem values_ofText (t : Text) : (Settings.ofText t).values = assignments t := by
  rw [Settings.ofText, values_addLines]
  rfl

/-- The warnings on lines are none on rules. -/
theorem warnings_addLines {P : Warning → Prop} (hunassigned : ∀ n, P (.unassignedLine n))
    (hboolean : ∀ n value, P (.notBoolean n value)) {s : Settings} (hs : ∀ w ∈ s.warnings, P w)
    (number : Nat) (lines : List Text) : ∀ w ∈ (s.addLines number lines).warnings, P w := by
  induction lines generalizing s number with
  | nil => exact hs
  | cons line lines ih =>
    refine ih ?_ (number + 1)
    have hsnoc : ∀ w', P w' → ∀ w ∈ s.warnings ++ [w'], P w := by
      intro w' hw' w hw
      rcases List.mem_append.1 hw with hw | hw
      · exact hs w hw
      · rw [List.mem_singleton.1 hw]
        exact hw'
    cases Line.read line with
    | silent | setting => exact hs
    | unassigned => exact hsnoc _ (hunassigned number)
    | showNameSuggestions value =>
      simp only [Settings.add]
      split
      · exact hs
      · exact hsnoc _ (hboolean number _)

/-! ## The spelling of keys -/

/-- The family that a key is of. -/
def Key.family : Key → Text
  | .rule _ _ => "naming_rule".toList
  | .symbols _ _ => "naming_symbols".toList
  | .style _ _ => "naming_style".toList

/-- The group that a key names. -/
def Key.group : Key → Text
  | .rule group _ | .symbols group _ | .style group _ => group

/-- A key is spelled by its family and its group, which ends at the second dot. -/
theorem exists_eq_of_parse? {t : Text} {key : Key} (h : Key.parse? t = some key) :
    ∃ property, t = key.family ++ '.' :: (key.group ++ '.' :: property) ∧ '.' ∉ key.group := by
  obtain ⟨⟨family, rest⟩, hfamily, h⟩ := Option.bind_eq_some_iff.1 h
  obtain ⟨⟨group, property⟩, hgroup, h⟩ := Option.bind_eq_some_iff.1 h
  have hkey : key.family = family ∧ key.group = group := by
    simp only at h
    split at h
    · rename_i hrule
      cases h
      exact ⟨hrule.symm, rfl⟩
    · split at h
      · rename_i hsymbols
        obtain ⟨q, -, rfl⟩ := Option.map_eq_some_iff.1 h
        exact ⟨hsymbols.symm, rfl⟩
      · split at h
        · rename_i hstyle
          obtain ⟨q, -, rfl⟩ := Option.map_eq_some_iff.1 h
          exact ⟨hstyle.symm, rfl⟩
        · cases h
  obtain ⟨rfl, rfl⟩ := hkey
  obtain ⟨rfl, -⟩ := Text.splitOnce?_eq_some_iff.1 hfamily
  obtain ⟨rfl, hfree⟩ := Text.splitOnce?_eq_some_iff.1 hgroup
  exact ⟨property, rfl, hfree⟩

end Nomenclator.Config
