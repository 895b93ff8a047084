import Nomenclator.Text.Basic

/-!
# Cutting at a separator text

Pieces that do not hold the first character of a separator come back whole when they are joined with
the separator and cut at it again (`splitOnText_joinWith`). That is enough to know where the
separator occurs: it cannot start inside a piece. Cutting any text and joining the pieces gives the text
back (`joinWith_splitOnText`). To cut at a character is to cut at the text of that character
(`splitOn_eq_splitOnText`).
-/

namespace Nomenclator.Text

/-! ## Affixes -/

@[simp] theorem dropPrefix?_append (p t : Text) : dropPrefix? p (p ++ t) = some t :=
  dropPrefix?_eq_some_iff.2 rfl

@[simp] theorem dropSuffix?_append (t p : Text) : dropSuffix? p (t ++ p) = some t :=
  dropSuffix?_eq_some_iff.2 rfl

/-- What is left of a text in either case: it loses the prefix if it has it. -/
theorem getD_dropPrefix? (p t : Text) :
    (dropPrefix? p t).getD t = if p <+: t then t.drop p.length else t := by
  by_cases h : p <+: t
  · obtain ⟨r, rfl⟩ := h
    rw [dropPrefix?_append, if_pos (List.prefix_append p r), List.drop_left, Option.getD_some]
  · have hnone : dropPrefix? p t = none := by
      rw [Option.eq_none_iff_forall_ne_some]
      intro r hr
      exact h ⟨r, (dropPrefix?_eq_some_iff.1 hr).symm⟩
    rw [hnone, if_neg h, Option.getD_none]

/-- What is left of a text in either case: it loses the suffix if it has it. -/
theorem getD_dropSuffix? (p t : Text) :
    (dropSuffix? p t).getD t = if p <:+ t then t.take (t.length - p.length) else t := by
  by_cases h : p <:+ t
  · obtain ⟨r, rfl⟩ := h
    have hlen : (r ++ p).length - p.length = r.length := by
      rw [List.length_append]
      omega
    rw [dropSuffix?_append, if_pos (List.suffix_append r p), hlen, List.take_left, Option.getD_some]
  · have hnone : dropSuffix? p t = none := by
      rw [Option.eq_none_iff_forall_ne_some]
      intro r hr
      exact h ⟨r, (dropSuffix?_eq_some_iff.1 hr).symm⟩
    rw [hnone, if_neg h, Option.getD_none]

theorem endsWith_iff {p t : Text} : endsWith p t = true ↔ p <:+ t := by
  rw [endsWith, Option.isSome_iff_exists]
  exact exists_congr fun r => dropSuffix?_eq_some_iff.trans eq_comm

/-- A text that is not within the end of another begins before it, if it ends there too. -/
theorem suffix_append_iff {p t q : Text} (h : ¬ p <:+: q) :
    p <:+ t ++ q ↔ ∃ r, r ≠ [] ∧ r ++ q = p ∧ r <:+ t := by
  constructor
  · intro hp
    rcases List.suffix_or_suffix_of_suffix hp (List.suffix_append t q) with hpq | ⟨r, rfl⟩
    · exact absurd hpq.isInfix h
    · refine ⟨r, ?_, rfl, List.suffix_append_self_iff.1 hp⟩
      rintro rfl
      exact h List.infix_rfl
  · rintro ⟨r, -, rfl, hr⟩
    exact List.suffix_append_self_iff.2 hr

/-! ## Joining -/

@[simp] theorem joinWith_nil (ps : List Text) : joinWith [] ps = ps.flatten := by
  induction ps with
  | nil => rfl
  | cons p ps ih =>
    cases ps with
    | nil => simp [joinWith]
    | cons q ps =>
      rw [joinWith, ih]
      simp

theorem joinWith_cons {sep p : Text} {ps : List Text} (hps : ps ≠ []) :
    joinWith sep (p :: ps) = p ++ (sep ++ joinWith sep ps) := by
  obtain ⟨q, qs, rfl⟩ := List.exists_cons_of_ne_nil hps
  rw [joinWith, List.append_assoc]

theorem joinWith_concat {sep p : Text} {ps : List Text} (hps : ps ≠ []) :
    joinWith sep (ps ++ [p]) = joinWith sep ps ++ (sep ++ p) := by
  induction ps with
  | nil => exact absurd rfl hps
  | cons q ps ih =>
    rw [List.cons_append, joinWith_cons (by simp)]
    by_cases hnil : ps = []
    · subst hnil
      rfl
    · rw [ih hnil, joinWith_cons hnil]
      simp

theorem infix_joinWith {sep p : Text} {ps : List Text} (h : p ∈ ps) : p <:+: joinWith sep ps := by
  induction ps with
  | nil => cases h
  | cons q ps ih =>
    by_cases hps : ps = []
    · subst hps
      obtain rfl := List.mem_singleton.1 h
      exact List.infix_rfl
    · rw [joinWith_cons hps]
      rcases List.mem_cons.1 h with rfl | h
      · exact (List.prefix_append p _).isInfix
      · exact (ih h).trans ((List.suffix_append sep _).trans (List.suffix_append q _)).isInfix

/-- Every character of the joined text is one of a piece or of the separator. -/
theorem mem_of_mem_joinWith {sep : Text} {ps : List Text} {c : Char} (h : c ∈ joinWith sep ps) :
    c ∈ sep ∨ ∃ p ∈ ps, c ∈ p := by
  induction ps with
  | nil => cases h
  | cons p ps ih =>
    cases ps with
    | nil => exact Or.inr ⟨p, List.mem_cons_self, h⟩
    | cons q ps =>
      rw [joinWith_cons (by simp)] at h
      rcases List.mem_append.1 h with hp | h
      · exact Or.inr ⟨p, List.mem_cons_self, hp⟩
      · rcases List.mem_append.1 h with hsep | h
        · exact Or.inl hsep
        · rcases ih h with hsep | ⟨r, hr, hc⟩
          · exact Or.inl hsep
          · exact Or.inr ⟨r, List.mem_cons_of_mem p hr, hc⟩

/-! ## Cutting -/

/-- The characters of a separator that has been found are passed. -/
theorem splitOnTextFrom_append (sep s t : Text) :
    splitOnTextFrom sep s.length (s ++ t) = splitOnTextFrom sep 0 t := by
  induction s with
  | nil => rfl
  | cons c s ih => simpa [splitOnTextFrom] using ih

/-- A separator does not start at a character that it does not start with. -/
theorem dropPrefix?_cons_of_ne {a c : Char} (h : c ≠ a) (p t : Text) :
    dropPrefix? (a :: p) (c :: t) = none := by
  simp [dropPrefix?, Ne.symm h]

theorem splitOnText_of_not_mem {a : Char} {sep p : Text} (hp : a ∉ p) :
    splitOnText (a :: sep) p = [p] := by
  unfold splitOnText
  induction p with
  | nil => rfl
  | cons c p ih =>
    simp only [List.mem_cons, not_or] at hp
    rw [splitOnTextFrom, dropPrefix?_cons_of_ne (Ne.symm hp.1), ih hp.2]
    rfl

/-- The first separator behind a piece ends the piece. -/
theorem splitOnText_append {a : Char} {sep p : Text} (hp : a ∉ p) (t : Text) :
    splitOnText (a :: sep) (p ++ (a :: sep ++ t)) = p :: splitOnText (a :: sep) t := by
  unfold splitOnText
  induction p with
  | nil =>
    have hfound : (dropPrefix? (a :: sep) (a :: (sep ++ t))).isSome = true := by
      rw [← List.cons_append, dropPrefix?_append]
      rfl
    rw [List.nil_append, List.cons_append, splitOnTextFrom, if_pos hfound]
    congr 1
    exact splitOnTextFrom_append (a :: sep) sep t
  | cons c p ih =>
    simp only [List.mem_cons, not_or] at hp
    rw [List.cons_append, splitOnTextFrom, dropPrefix?_cons_of_ne (Ne.symm hp.1), ih hp.2]
    rfl

/-- Pieces in which the separator cannot start come back whole. -/
theorem splitOnText_joinWith {a : Char} {sep : Text} {ps : List Text} (hne : ps ≠ [])
    (hps : ∀ p ∈ ps, a ∉ p) : splitOnText (a :: sep) (joinWith (a :: sep) ps) = ps := by
  induction ps with
  | nil => exact absurd rfl hne
  | cons p ps ih =>
    have hp : a ∉ p := hps p List.mem_cons_self
    cases ps with
    | nil => exact splitOnText_of_not_mem hp
    | cons q ps =>
      rw [joinWith_cons (by simp), splitOnText_append hp,
        ih (by simp) fun r hr => hps r (List.mem_cons_of_mem p hr)]

theorem splitOnTextFrom_ne_nil (sep : Text) (k : Nat) (t : Text) : splitOnTextFrom sep k t ≠ [] := by
  induction t generalizing k with
  | nil => cases k <;> simp [splitOnTextFrom]
  | cons c t ih =>
    cases k with
    | succ k => exact ih k
    | zero =>
      rw [splitOnTextFrom]
      split
      · simp
      · split <;> simp

/-- The pieces with the separator between them are the text, less what is to be passed. -/
theorem joinWith_splitOnTextFrom {sep : Text} (hsep : sep ≠ []) (k : Nat) (t : Text) :
    joinWith sep (splitOnTextFrom sep k t) = t.drop k := by
  induction t generalizing k with
  | nil => cases k <;> simp [splitOnTextFrom, joinWith]
  | cons c t ih =>
    cases k with
    | succ k => exact ih k
    | zero =>
      rw [splitOnTextFrom]
      split
      · rename_i hfound
        obtain ⟨r, hr⟩ := Option.isSome_iff_exists.1 hfound
        obtain ⟨a, rest, rfl⟩ := List.exists_cons_of_ne_nil hsep
        have htext : c :: t = a :: (rest ++ r) := dropPrefix?_eq_some_iff.1 hr
        obtain ⟨rfl, rfl⟩ := List.cons_eq_cons.1 htext
        rw [joinWith_cons (splitOnTextFrom_ne_nil _ _ _), ih, List.length_cons, Nat.add_sub_cancel,
          List.drop_left]
        rfl
      · have hjoin := ih 0
        cases hpieces : splitOnTextFrom sep 0 t with
        | nil => exact absurd hpieces (splitOnTextFrom_ne_nil sep 0 t)
        | cons p ps =>
          rw [hpieces] at hjoin
          cases ps with
          | nil => simpa [joinWith] using hjoin
          | cons q ps => simpa [joinWith] using hjoin

/-- Cutting at a separator loses nothing but the separator. -/
theorem joinWith_splitOnText {sep : Text} (hsep : sep ≠ []) (t : Text) :
    joinWith sep (splitOnText sep t) = t :=
  joinWith_splitOnTextFrom hsep 0 t

/-! ## Cutting at a character -/

theorem splitOn_eq_splitOnText (a : Char) (t : Text) : splitOn a t = splitOnText [a] t := by
  unfold splitOnText
  induction t with
  | nil => rfl
  | cons c t ih =>
    by_cases h : c = a
    · subst h
      rw [splitOn, if_pos rfl, splitOnTextFrom, if_pos (by simp [dropPrefix?]), ih]
      rfl
    · rw [splitOn, if_neg h, splitOnTextFrom, dropPrefix?_cons_of_ne h, ih]
      rfl

/-- Pieces without the separator come back whole. -/
theorem splitOn_joinWith {a : Char} {ps : List Text} (hne : ps ≠ []) (hps : ∀ p ∈ ps, a ∉ p) :
    splitOn a (joinWith [a] ps) = ps := by
  rw [splitOn_eq_splitOnText, splitOnText_joinWith hne hps]

/-! ## The first and the last occurrence of a character -/

theorem splitOnce?_append_cons {sep : Char} {s : Text} (hs : sep ∉ s) (t : Text) :
    splitOnce? sep (s ++ sep :: t) = some (s, t) := by
  induction s with
  | nil => simp [splitOnce?]
  | cons c s ih =>
    rw [List.mem_cons, not_or] at hs
    rw [List.cons_append, splitOnce?, if_neg (Ne.symm hs.1), ih hs.2]
    rfl

theorem splitOnce?_of_not_mem {sep : Char} {t : Text} (ht : sep ∉ t) : splitOnce? sep t = none := by
  induction t with
  | nil => rfl
  | cons c t ih =>
    rw [List.mem_cons, not_or] at ht
    rw [splitOnce?, if_neg (Ne.symm ht.1), ih ht.2]
    rfl

/-- A text is cut at the first occurrence of the character. -/
theorem splitOnce?_eq_some_iff {sep : Char} {t a b : Text} :
    splitOnce? sep t = some (a, b) ↔ t = a ++ sep :: b ∧ sep ∉ a := by
  constructor
  · intro h
    induction t generalizing a with
    | nil => cases h
    | cons c t ih =>
      simp only [splitOnce?] at h
      split at h
      · rename_i hc
        cases h
        exact ⟨by rw [hc]; rfl, List.not_mem_nil⟩
      · rename_i hc
        obtain ⟨⟨a', b'⟩, hsplit, heq⟩ := Option.map_eq_some_iff.1 h
        cases heq
        obtain ⟨rfl, hfree⟩ := ih hsplit
        refine ⟨rfl, ?_⟩
        rw [List.mem_cons, not_or]
        exact ⟨Ne.symm hc, hfree⟩
  · rintro ⟨rfl, hfree⟩
    exact splitOnce?_append_cons hfree b

theorem splitLast?_append_cons {sep : Char} (s : Text) {t : Text} (ht : sep ∉ t) :
    splitLast? sep (s ++ sep :: t) = some (s, t) := by
  have hreverse : (s ++ sep :: t).reverse = t.reverse ++ sep :: s.reverse := by simp
  rw [splitLast?, hreverse, splitOnce?_append_cons (by simpa using ht)]
  simp

theorem splitLast?_of_not_mem {sep : Char} {t : Text} (ht : sep ∉ t) : splitLast? sep t = none := by
  rw [splitLast?, splitOnce?_of_not_mem (by simpa using ht)]
  rfl

end Nomenclator.Text
