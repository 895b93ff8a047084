import Mathlib.Logic.Relation
import Nomenclator.Proofs.Config.KeyLines
import Nomenclator.Proofs.Distinct
import Nomenclator.Proofs.Text.Splitting
import Nomenclator.Proofs.Unicode.WhiteSpace

/-!
# Edits that leave a configuration as it is

A configuration can be edited in several ways without a change of its meaning: comments, section
headers and blank lines may come and go, and so may lines with unknown keys; white space around
lines, keys and values, the case of keys and the prefix `dotnet_` are free; and neighbouring lines of
different keys may change places. The last two kinds of edits must not change the order in which
rule groups are first mentioned, because that is the order of the rules; a property that no rule has
mentions its group all the same.

One edit leaves key lines that agree (`Edit.agree`), and so does any number of edits forth and back
(`agree_of_edits`). Carriage returns in front of all line feeds are white space at the ends of lines
(`keyLines_lines_withCarriageReturns`).
-/

namespace Nomenclator

namespace Config

/-! ## Spellings of keys -/

/-- The text can stand for a key in front of an equals sign: it has no such sign in it, and it does
not start a comment or a section header. -/
structure IsKeySpelling (k : Text) : Prop where
  not_mem : '=' ∉ k
  not_isPassedOver : isPassedOver (Unicode.trim k ++ ['=']) = false

/-- Two spellings of one key. -/
inductive Respelling : Text → Text → Prop
  /-- White space around the key. -/
  | space {k k' : Text} (h : Unicode.trim k = Unicode.trim k') : Respelling k k'
  /-- Capitals and small letters. -/
  | letterCase {k k' : Text} (h : Text.lowerAscii k = Text.lowerAscii k') : Respelling k k'
  /-- The prefix, in front of a key that does not have it. -/
  | marked {k : Text} (hspace : Unicode.trimStart k = k)
      (hbare : Text.dropPrefix? "dotnet_".toList (Text.lowerAscii (Unicode.trim k)) = none) :
      Respelling k ("dotnet_".toList ++ k)

theorem normalizeKey_of_trim_eq {k k' : Text} (h : Unicode.trim k = Unicode.trim k') :
    normalizeKey k = normalizeKey k' := by
  unfold normalizeKey
  rw [h]

/-- Spellings of one key have one normalized text. -/
theorem Respelling.normalizeKey_eq {k k' : Text} (h : Respelling k k') :
    normalizeKey k = normalizeKey k' := by
  cases h with
  | space h => exact normalizeKey_of_trim_eq h
  | letterCase h =>
    unfold normalizeKey
    rw [← Unicode.trim_lowerAscii, ← Unicode.trim_lowerAscii, h]
  | marked hspace hbare =>
    have htrim : Unicode.trim ("dotnet_".toList ++ k) = "dotnet_".toList ++ Unicode.trim k := by
      have hcut := Unicode.trim_append_cons (c := '_') (by decide) "dotnet".toList k
      rw [Unicode.trim_eq k, hspace]
      exact hcut
    have hlower : Text.lowerAscii ("dotnet_".toList ++ Unicode.trim k) =
        "dotnet_".toList ++ Text.lowerAscii (Unicode.trim k) := by
      rw [Text.lowerAscii, List.map_append]
      rfl
    have hdrop : Text.dropPrefix? "dotnet_".toList
        ("dotnet_".toList ++ Text.lowerAscii (Unicode.trim k)) =
          some (Text.lowerAscii (Unicode.trim k)) := Text.dropPrefix?_eq_some_iff.2 rfl
    unfold normalizeKey
    simp only [htrim, hlower, hdrop, hbare, Option.getD_none, Option.getD_some]

/-! ## Key lines -/

/-- A spelled key, an equals sign and a value make a key line. -/
theorem keyLine?_append {k : Text} (hk : IsKeySpelling k) (v : Text) :
    keyLine? (k ++ '=' :: v) = some (normalizeKey k, Unicode.trim v) := by
  have htrim : Unicode.trim (k ++ '=' :: v) = Unicode.trimStart k ++ '=' :: Unicode.trimEnd v :=
    Unicode.trim_append_cons (by decide) k v
  have hmem : '=' ∉ Unicode.trimStart k :=
    fun h => hk.not_mem ((List.dropWhile_sublist _).subset h)
  have hpassed : isPassedOver (Unicode.trimStart k ++ '=' :: Unicode.trimEnd v) = false := by
    have hfront := hk.not_isPassedOver
    rw [Unicode.trim_eq] at hfront
    cases hstart : Unicode.trimStart k with
    | nil => rfl
    | cons c r =>
      -- What is left of the key starts with a character that the end keeps, too.
      have hblank : Unicode.isWhiteSpace c = false := by
        have hhead := List.head?_dropWhile_not Unicode.isWhiteSpace k
        rw [show k.dropWhile Unicode.isWhiteSpace = c :: r from hstart] at hhead
        simpa using hhead
      rw [hstart, ← List.nil_append (c :: r), Unicode.trimEnd_append_cons hblank] at hfront
      exact hfront
  unfold keyLine?
  rw [htrim, hpassed, Text.splitOnce?_append_cons hmem]
  simp [normalizeKey_of_trim_eq (Unicode.trim_trimStart k)]

theorem keyLine?_of_trim_eq {line line' : Text} (h : Unicode.trim line = Unicode.trim line') :
    keyLine? line = keyLine? line' := by
  unfold keyLine?
  rw [h]

theorem keyLine?_of_isPassedOver {line : Text} (h : isPassedOver (Unicode.trim line) = true) :
    keyLine? line = none := by
  unfold keyLine?
  rw [if_pos h]

/-! ## Edits -/

/-- One edit of the lines of a configuration. -/
inductive Edit : List Text → List Text → Prop
  /-- A blank line, a comment or a section header goes. -/
  | passedOver (before behind : List Text) {line : Text}
      (h : isPassedOver (Unicode.trim line) = true) :
      Edit (before ++ line :: behind) (before ++ behind)
  /-- White space around a line changes. -/
  | space (before behind : List Text) {line line' : Text}
      (h : Unicode.trim line = Unicode.trim line') :
      Edit (before ++ line :: behind) (before ++ line' :: behind)
  /-- A key is spelled in another way, or white space around its value changes. -/
  | respelled (before behind : List Text) {k k' v v' : Text} (hk : IsKeySpelling k)
      (hk' : IsKeySpelling k') (h : Respelling k k') (hv : Unicode.trim v = Unicode.trim v') :
      Edit (before ++ (k ++ '=' :: v) :: behind) (before ++ (k' ++ '=' :: v') :: behind)
  /-- A line with an unknown key goes, unless it mentions a rule group for the first time. -/
  | unknown (before behind : List Text) {k v : Text} (hk : IsKeySpelling k)
      (hshowing : normalizeKey k ≠ showingKey) (hunknown : ¬ IsRecognized (normalizeKey k))
      (hmention : ∀ group ∈ mentionedGroup? (normalizeKey k),
        group ∈ firstMentions (keyLines before)) :
      Edit (before ++ (k ++ '=' :: v) :: behind) (before ++ behind)
  /-- Neighbouring lines of different keys change places, unless both mention rule groups for the
  first time. -/
  | exchanged (before behind : List Text) {k k' v v' : Text} (hk : IsKeySpelling k)
      (hk' : IsKeySpelling k') (hne : normalizeKey k ≠ normalizeKey k')
      (hmention : ∀ group ∈ mentionedGroup? (normalizeKey k),
        ∀ group' ∈ mentionedGroup? (normalizeKey k'),
          group = group' ∨ group ∈ firstMentions (keyLines before) ∨
            group' ∈ firstMentions (keyLines before)) :
      Edit (before ++ (k ++ '=' :: v) :: (k' ++ '=' :: v') :: behind)
        (before ++ (k' ++ '=' :: v') :: (k ++ '=' :: v) :: behind)

section KeyLines

variable {ks ks' : List (Text × Text)}

theorem keyLines_append_cons (before : List Text) (line : Text) (behind : List Text) :
    keyLines (before ++ line :: behind) =
      keyLines before ++ ((keyLine? line).toList ++ keyLines behind) := by
  unfold keyLines
  rw [List.filterMap_append]
  cases h : keyLine? line with
  | none => rw [List.filterMap_cons_none h]; rfl
  | some a => rw [List.filterMap_cons_some h]; rfl

theorem keyLines_append (before behind : List Text) :
    keyLines (before ++ behind) = keyLines before ++ keyLines behind :=
  List.filterMap_append

theorem mem_firstMentions {group : Text} :
    group ∈ firstMentions ks ↔ group ∈ ks.filterMap mention? := mem_distinct

/-- A key line without a meaning of its own can go. -/
theorem agree_append_cons {a : Text × Text} (hshowing : a.1 ≠ showingKey)
    (hunknown : ¬ IsRecognized a.1)
    (hmention : ∀ group ∈ mentionedGroup? a.1, group ∈ firstMentions ks) :
    Agree (ks ++ a :: ks') (ks ++ ks') where
  values := by
    intro key hkey
    have hne : a.1 ≠ key := by
      rintro rfl
      exact hunknown hkey
    unfold lastValueOf?
    rw [List.filter_append, List.filter_append, List.filter_cons_of_neg (by simpa using hne)]
  showing := by
    have hnone : showing? a = none := if_neg hshowing
    unfold lastShowing?
    rw [List.filterMap_append, List.filterMap_append, List.filterMap_cons_none hnone]
  mentions := by
    unfold firstMentions
    rw [List.filterMap_append, List.filterMap_append]
    cases hgroup : mention? a with
    | none => rw [List.filterMap_cons_none hgroup]
    | some group =>
      rw [List.filterMap_cons_some hgroup]
      exact distinct_append_cons_of_mem (mem_firstMentions.1 (hmention group hgroup)) _

/-- Neighbouring key lines of different keys can change places. -/
theorem agree_append_swap {a b : Text × Text} (hne : a.1 ≠ b.1)
    (hmention : ∀ group ∈ mentionedGroup? a.1, ∀ group' ∈ mentionedGroup? b.1,
      group = group' ∨ group ∈ firstMentions ks ∨ group' ∈ firstMentions ks) :
    Agree (ks ++ a :: b :: ks') (ks ++ b :: a :: ks') where
  values := by
    intro key _
    have hfilter : (a :: b :: ks').filter (fun x => x.1 = key) =
        (b :: a :: ks').filter fun x => x.1 = key := by
      by_cases ha : a.1 = key
      · have hb : b.1 ≠ key := fun hb => hne (ha.trans hb.symm)
        simp [ha, hb]
      · simp [List.filter_cons, ha]
    unfold lastValueOf?
    rw [List.filter_append, List.filter_append, hfilter]
  showing := by
    have hone : showing? a = none ∨ showing? b = none := by
      by_cases ha : a.1 = showingKey
      · exact Or.inr (if_neg fun hb => hne (ha.trans hb.symm))
      · exact Or.inl (if_neg ha)
    unfold lastShowing?
    rw [List.filterMap_append, List.filterMap_append]
    rcases hone with h | h
    · simp [List.filterMap_cons, h]
    · simp [List.filterMap_cons, h]
  mentions := by
    unfold firstMentions
    rw [List.filterMap_append, List.filterMap_append]
    cases ha : mention? a with
    | none => simp [List.filterMap_cons, ha]
    | some group =>
      cases hb : mention? b with
      | none => simp [ha, hb]
      | some group' =>
        have hcases := hmention group ha group' hb
        rw [mem_firstMentions, mem_firstMentions] at hcases
        rw [List.filterMap_cons_some ha, List.filterMap_cons_some hb, List.filterMap_cons_some hb,
          List.filterMap_cons_some ha]
        exact distinct_append_swap hcases _

end KeyLines

/-- One edit leaves key lines that agree. -/
theorem Edit.agree {lines lines' : List Text} (h : Edit lines lines') :
    Agree (keyLines lines) (keyLines lines') := by
  cases h with
  | passedOver before behind h =>
    rw [keyLines_append_cons, keyLine?_of_isPassedOver h, keyLines_append]
    exact Agree.refl _
  | space before behind h =>
    rw [keyLines_append_cons, keyLines_append_cons, keyLine?_of_trim_eq h]
    exact Agree.refl _
  | respelled before behind hk hk' h hv =>
    rw [keyLines_append_cons, keyLines_append_cons, keyLine?_append hk, keyLine?_append hk',
      h.normalizeKey_eq, hv]
    exact Agree.refl _
  | unknown before behind hk hshowing hunknown hmention =>
    rw [keyLines_append_cons, keyLine?_append hk, keyLines_append]
    exact agree_append_cons hshowing hunknown hmention
  | exchanged before behind hk hk' hne hmention =>
    have hpair : ∀ line line' : Text, keyLines (before ++ line :: line' :: behind) =
        keyLines before ++ ((keyLine? line).toList ++ ((keyLine? line').toList ++
          keyLines behind)) := by
      intro line line'
      rw [keyLines_append_cons, ← List.nil_append (line' :: behind), keyLines_append_cons]
      rfl
    rw [hpair, hpair, keyLine?_append hk, keyLine?_append hk']
    exact agree_append_swap hne hmention

/-- Any number of edits, forth and back, leave key lines that agree. -/
theorem agree_of_edits {lines lines' : List Text} (h : Relation.EqvGen Edit lines lines') :
    Agree (keyLines lines) (keyLines lines') := by
  induction h with
  | rel lines lines' h => exact h.agree
  | refl lines => exact Agree.refl _
  | symm lines lines' _ ih => exact ih.symm
  | trans lines lines' lines'' _ _ ih ih' => exact ih.trans ih'

/-! ## Carriage returns -/

/-- The text with a carriage return in front of every line feed. -/
def withCarriageReturns (t : Text) : Text :=
  t.flatMap fun c => if c = '\n' then ['\r', '\n'] else [c]

/-- The lines are the same, or the second ends with a carriage return. -/
def EndsLike (line line' : Text) : Prop := line' = line ∨ line' = line ++ ['\r']

theorem EndsLike.trim_eq {line line' : Text} (h : EndsLike line line') :
    Unicode.trim line = Unicode.trim line' := by
  rcases h with rfl | rfl
  · rfl
  · refine (Unicode.trim_append_whiteSpace ?_ line).symm
    intro c hc
    rw [List.mem_singleton.1 hc]
    decide

theorem EndsLike.cons {line line' : Text} (h : EndsLike line line') (c : Char) :
    EndsLike (c :: line) (c :: line') := by
  rcases h with rfl | rfl
  · exact Or.inl rfl
  · exact Or.inr rfl

theorem splitOn_withCarriageReturns (t : Text) :
    List.Forall₂ EndsLike (Text.splitOn '\n' t) (Text.splitOn '\n' (withCarriageReturns t)) := by
  induction t with
  | nil => exact List.Forall₂.cons (Or.inl rfl) List.Forall₂.nil
  | cons c t ih =>
    by_cases hc : c = '\n'
    · have hleft : Text.splitOn '\n' (c :: t) = [] :: Text.splitOn '\n' t := if_pos hc
      have hright : Text.splitOn '\n' (withCarriageReturns (c :: t)) =
          ['\r'] :: Text.splitOn '\n' (withCarriageReturns t) := by
        rw [hc]
        rfl
      rw [hleft, hright]
      exact List.Forall₂.cons (Or.inr rfl) ih
    · have htext : withCarriageReturns (c :: t) = c :: withCarriageReturns t := by
        rw [withCarriageReturns, List.flatMap_cons, if_neg hc]
        rfl
      rw [htext, Text.splitOn, Text.splitOn, if_neg hc, if_neg hc]
      -- The character goes in front of the first piece on both sides.
      generalize Text.splitOn '\n' t = pieces at ih ⊢
      generalize Text.splitOn '\n' (withCarriageReturns t) = pieces' at ih ⊢
      cases ih with
      | nil => exact List.Forall₂.cons (Or.inl rfl) List.Forall₂.nil
      | cons hpiece hpieces => exact List.Forall₂.cons (hpiece.cons c) hpieces

theorem getLast?_withCarriageReturns (t : Text) :
    (withCarriageReturns t).getLast? = t.getLast? := by
  rcases List.eq_nil_or_concat t with rfl | ⟨s, c, rfl⟩
  · rfl
  · rw [List.concat_eq_append, withCarriageReturns, List.flatMap_append, List.flatMap_singleton]
    by_cases hc : c = '\n'
    · simp [hc]
    · simp [hc]

theorem lines_withCarriageReturns (t : Text) :
    List.Forall₂ EndsLike (Text.lines t) (Text.lines (withCarriageReturns t)) := by
  have hpieces := splitOn_withCarriageReturns t
  unfold Text.lines
  rw [getLast?_withCarriageReturns]
  split
  · exact List.Forall₂.nil
  · rw [List.dropLast_eq_take, List.dropLast_eq_take, hpieces.length_eq]
    exact List.forall₂_take _ hpieces
  · exact hpieces

theorem keyLines_of_endsLike {lines lines' : List Text} (h : List.Forall₂ EndsLike lines lines') :
    keyLines lines = keyLines lines' := by
  induction h with
  | nil => rfl
  | cons hline _ ih =>
    unfold keyLines at ih ⊢
    rw [List.filterMap_cons, List.filterMap_cons, keyLine?_of_trim_eq hline.trim_eq, ih]

/-- Line feeds alone and line feeds behind carriage returns end lines alike. -/
theorem keyLines_lines_withCarriageReturns (t : Text) :
    keyLines (Text.lines t) = keyLines (Text.lines (withCarriageReturns t)) :=
  keyLines_of_endsLike (lines_withCarriageReturns t)

end Config

end Nomenclator
