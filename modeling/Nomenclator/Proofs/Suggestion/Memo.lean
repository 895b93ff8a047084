import Mathlib.Data.Finset.Card
import Nomenclator.Suggestion.Completion

/-!
# A memo changes no answer

A memo is asked questions and cleared in between. Whatever it has been through, it answers a question
with the decomposition that the question asks for; it gives an answer again exactly if the same
question was asked before and the memo was not cleared since; and it holds one answer for each
question asked since it was last cleared. So a completion that remembers decompositions gives the
same candidates as one that does not (`Memo.remembers_spec`).

`Memo.Invariant` says what holds of a memo after requests; a question keeps it (`Memo.Invariant.ask`),
and a clearing starts it anew (`Memo.invariant_cleared`). That an answer is given again is seen from
what a single request does to the answers: a question keeps the answer that it has (`find?_ask`), and
after the memo is cleared all answers have larger numbers (`Begins.serve`).
-/

namespace Nomenclator

/-! ## Requests -/

/-- What can be asked of a memo. -/
inductive Request
  | ask (q : Question)
  | clear
  deriving DecidableEq

/-- The question that is asked, if one is. -/
def Request.question? : Request → Option Question
  | .ask q => some q
  | .clear => none

/-- The questions that are asked after the last clearing. -/
def recentQuestions (rs : List Request) : List Question :=
  (rs.reverse.takeWhile (· ≠ .clear)).filterMap Request.question?

theorem recentQuestions_append_ask (rs : List Request) (q : Question) :
    recentQuestions (rs ++ [.ask q]) = q :: recentQuestions rs := by
  simp [recentQuestions, Request.question?]

theorem recentQuestions_append_clear (rs : List Request) :
    recentQuestions (rs ++ [.clear]) = [] := by
  simp [recentQuestions]

namespace Memo

variable {m : Memo} {q q' : Question} {a : Answer}

/-- The memo after a request. -/
def serve (m : Memo) : Request → Memo
  | .ask q => (m.ask q).2
  | .clear => m.clear

/-- The memo after several requests. -/
def serveAll (m : Memo) (rs : List Request) : Memo := rs.foldl serve m

theorem serveAll_append (m : Memo) (rs rs' : List Request) :
    m.serveAll (rs ++ rs') = (m.serveAll rs).serveAll rs' :=
  List.foldl_append

/-! ## One question -/

theorem ask_of_find?_eq_some (h : m.find? q = some a) : m.ask q = (a, m) := by
  rw [ask, h]

theorem ask_of_find?_eq_none (h : m.find? q = none) :
    m.ask q = (⟨q, m.computations, q.type.decompose q.asyncPhrases⟩,
      { answers := m.answers ++ [⟨q, m.computations, q.type.decompose q.asyncPhrases⟩]
        computations := m.computations + 1 }) := by
  rw [ask, h]

theorem find?_eq_none_iff : m.find? q = none ↔ q ∉ m.answers.map (·.question) := by
  simp [find?, List.find?_eq_none]

theorem of_find?_eq_some (h : m.find? q = some a) : a ∈ m.answers ∧ a.question = q :=
  ⟨List.mem_of_find?_eq_some h, by simpa using List.find?_some h⟩

/-- A question is remembered with the answer that is given to it. -/
theorem find?_ask_self (m : Memo) (q : Question) : (m.ask q).2.find? q = some (m.ask q).1 := by
  cases h : m.find? q with
  | some a => rw [ask_of_find?_eq_some h, h]
  | none =>
    rw [ask_of_find?_eq_none h]
    simp only [find?] at h
    simp [find?, List.find?_append, h]

/-- No question changes the answer to another. -/
theorem find?_ask (h : m.find? q = some a) (q' : Question) :
    (m.ask q').2.find? q = some a := by
  cases h' : m.find? q' with
  | some b => rwa [ask_of_find?_eq_some h']
  | none =>
    rw [ask_of_find?_eq_none h']
    simp only [find?] at h
    simp [find?, List.find?_append, h]

theorem ask_mem_answers (m : Memo) (q : Question) :
    (m.ask q).1 ∈ (m.ask q).2.answers ∧ (m.ask q).1.question = q :=
  of_find?_eq_some (m.find?_ask_self q)

/-! ## What holds after requests -/

/-- The answers are the decompositions that their questions ask for. -/
def IsSound (m : Memo) : Prop :=
  ∀ a ∈ m.answers, a.variants = a.question.type.decompose a.question.asyncPhrases

theorem isSound_empty : empty.IsSound := by
  intro a ha
  cases ha

theorem IsSound.ask (h : m.IsSound) (q : Question) : (m.ask q).2.IsSound := by
  cases hfind : m.find? q with
  | some a => rwa [ask_of_find?_eq_some hfind]
  | none =>
    rw [ask_of_find?_eq_none hfind]
    intro a ha
    rcases List.mem_append.1 ha with ha | ha
    · exact h a ha
    · rw [List.mem_singleton.1 ha]

/-- A sound memo answers with the decomposition that is asked for. -/
theorem IsSound.ask_variants (h : m.IsSound) (q : Question) :
    (m.ask q).1.variants = q.type.decompose q.asyncPhrases := by
  obtain ⟨hmem, hquestion⟩ := m.ask_mem_answers q
  rw [h.ask q _ hmem, hquestion]

/-- What holds of a memo that has been asked these questions since it was last cleared. -/
structure Invariant (m : Memo) (qs : List Question) : Prop where
  sound : m.IsSound
  questions_nodup : (m.answers.map (·.question)).Nodup
  mem_questions_iff : ∀ q, q ∈ m.answers.map (·.question) ↔ q ∈ qs
  numbers_nodup : (m.answers.map (·.number)).Nodup
  number_lt : ∀ a ∈ m.answers, a.number < m.computations

theorem invariant_cleared (n : Nat) : Invariant { answers := [], computations := n } [] where
  sound := by
    intro a ha
    cases ha
  questions_nodup := List.nodup_nil
  mem_questions_iff := by simp
  numbers_nodup := List.nodup_nil
  number_lt := by simp

theorem Invariant.ask {qs : List Question} (h : m.Invariant qs) (q : Question) :
    (m.ask q).2.Invariant (q :: qs) := by
  cases hfind : m.find? q with
  | some a =>
    obtain ⟨hmem, rfl⟩ := of_find?_eq_some hfind
    rw [ask_of_find?_eq_some hfind]
    refine ⟨h.sound, h.questions_nodup, fun q' => ?_, h.numbers_nodup, h.number_lt⟩
    have hasked : a.question ∈ qs := (h.mem_questions_iff _).1 (List.mem_map_of_mem hmem)
    rw [h.mem_questions_iff, List.mem_cons]
    constructor
    · exact Or.inr
    · rintro (rfl | hq')
      · exact hasked
      · exact hq'
  | none =>
    have hnew := find?_eq_none_iff.1 hfind
    have hsound := h.sound.ask q
    rw [ask_of_find?_eq_none hfind] at hsound ⊢
    refine ⟨hsound, ?_, fun q' => ?_, ?_, ?_⟩
    · rw [List.map_append, List.map_singleton, ← List.concat_eq_append]
      exact h.questions_nodup.concat hnew
    · rw [List.map_append, List.mem_append, h.mem_questions_iff, List.mem_cons]
      simp [or_comm]
    · rw [List.map_append, List.map_singleton, ← List.concat_eq_append]
      refine h.numbers_nodup.concat fun hmem => ?_
      obtain ⟨a, ha, hnumber⟩ := List.mem_map.1 hmem
      exact absurd hnumber (Nat.ne_of_lt (h.number_lt a ha))
    · intro a ha
      rcases List.mem_append.1 ha with ha | ha
      · exact Nat.lt_succ_of_lt (h.number_lt a ha)
      · rw [List.mem_singleton.1 ha]
        exact Nat.lt_succ_self _

/-- The induction is on the requests from the last one back. -/
theorem invariant_serveAll (rs : List Request) :
    (empty.serveAll rs).Invariant (recentQuestions rs) := by
  induction rs using List.reverseRecOn with
  | nil => exact invariant_cleared 0
  | append_singleton rs r ih =>
    rw [serveAll_append]
    cases r with
    | ask q =>
      rw [recentQuestions_append_ask]
      exact ih.ask q
    | clear =>
      rw [recentQuestions_append_clear]
      exact invariant_cleared _

/-- A memo holds one answer for each question that it was asked. -/
theorem Invariant.size_eq {qs : List Question} (h : m.Invariant qs) :
    m.size = qs.toFinset.card := by
  have hsame : (m.answers.map (·.question)).toFinset = qs.toFinset := by
    ext q
    rw [List.mem_toFinset, List.mem_toFinset, h.mem_questions_iff]
  rw [← hsame, List.toFinset_card_of_nodup h.questions_nodup, List.length_map, size]

/-! ## Answers that are given again -/

/-- As long as the memo is not cleared, a question keeps its answer. -/
theorem find?_serveAll (h : m.find? q = some a) {rs : List Request} (hrs : .clear ∉ rs) :
    (m.serveAll rs).find? q = some a := by
  induction rs generalizing m with
  | nil => exact h
  | cons r rs ih =>
    rw [List.mem_cons, not_or] at hrs
    obtain ⟨hr, hrs⟩ := hrs
    cases r with
    | ask q' => exact ih (find?_ask h q') hrs
    | clear => exact absurd rfl hr

/-- All answers that are remembered, now and from now on, have this number or a larger one. -/
def Begins (m : Memo) (n : Nat) : Prop :=
  n ≤ m.computations ∧ ∀ a ∈ m.answers, n ≤ a.number

theorem computations_le_serveAll (m : Memo) (rs : List Request) :
    m.computations ≤ (m.serveAll rs).computations := by
  induction rs generalizing m with
  | nil => exact Nat.le_refl _
  | cons r rs ih =>
    refine Nat.le_trans ?_ (ih (m.serve r))
    cases r with
    | ask q =>
      cases h : m.find? q with
      | some a => rw [serve, ask_of_find?_eq_some h]
      | none =>
        rw [serve, ask_of_find?_eq_none h]
        exact Nat.le_succ _
    | clear => exact Nat.le_refl _

theorem Begins.serve {n : Nat} (h : m.Begins n) (r : Request) : (m.serve r).Begins n := by
  obtain ⟨hle, hall⟩ := h
  cases r with
  | ask q =>
    cases hfind : m.find? q with
    | some a =>
      rw [Memo.serve, ask_of_find?_eq_some hfind]
      exact ⟨hle, hall⟩
    | none =>
      rw [Memo.serve, ask_of_find?_eq_none hfind]
      refine ⟨Nat.le_succ_of_le hle, fun a ha => ?_⟩
      rcases List.mem_append.1 ha with ha | ha
      · exact hall a ha
      · rwa [List.mem_singleton.1 ha]
  | clear => exact ⟨hle, fun a ha => by cases ha⟩

theorem Begins.serveAll {n : Nat} (h : m.Begins n) (rs : List Request) :
    (m.serveAll rs).Begins n := by
  induction rs generalizing m with
  | nil => exact h
  | cons r rs ih => exact ih (h.serve r)

/-- Once the memo has been cleared, no answer from before has the number of one from after. -/
theorem number_lt_of_clear_mem {rs : List Request} (hrs : .clear ∈ rs)
    (hlt : a.number < m.computations) (q : Question) :
    a.number < ((m.serveAll rs).ask q).1.number := by
  obtain ⟨before, after, rfl⟩ := List.append_of_mem hrs
  have hbegins : ((m.serveAll before).serve .clear).Begins m.computations :=
    ⟨m.computations_le_serveAll before, fun b hb => by cases hb⟩
  have hrest := (hbegins.serveAll after).serve (.ask q)
  rw [serveAll_append]
  exact Nat.lt_of_lt_of_le hlt (hrest.2 _ (ask_mem_answers _ q).1)

/-- Two answers have the same number exactly if they answer the same question and the memo was not
cleared in between, and then they are the same. -/
theorem number_eq_iff (rs between : List Request) (q q' : Question) :
    let a := ((empty.serveAll rs).ask q).1
    let b := ((empty.serveAll (rs ++ .ask q :: between)).ask q').1
    (a.number = b.number ↔ q = q' ∧ .clear ∉ between) ∧
      (q = q' → .clear ∉ between → a = b) := by
  intro a b
  have hserved : empty.serveAll (rs ++ .ask q :: between) =
      ((empty.serveAll rs).ask q).2.serveAll between := serveAll_append _ _ _
  have hfirst : ((empty.serveAll rs).ask q).2.find? q = some a := find?_ask_self _ q
  have hlt : a.number < ((empty.serveAll rs).ask q).2.computations :=
    ((invariant_serveAll rs).ask q).number_lt a (of_find?_eq_some hfirst).1
  have hkept : .clear ∉ between →
      (empty.serveAll (rs ++ .ask q :: between)).find? q = some a := by
    intro hclear
    rw [hserved]
    exact find?_serveAll hfirst hclear
  have hsame : q = q' → .clear ∉ between → a = b := by
    rintro rfl hclear
    have hagain := congrArg Prod.fst (ask_of_find?_eq_some (hkept hclear))
    exact hagain.symm
  refine ⟨⟨fun hnumber => ?_, fun ⟨hq, hclear⟩ => congrArg Answer.number (hsame hq hclear)⟩, hsame⟩
  have hclear : .clear ∉ between := by
    intro hmem
    have hnot := number_lt_of_clear_mem hmem hlt q'
    rw [← hserved] at hnot
    exact Nat.ne_of_lt hnot hnumber
  -- Both answers are remembered at the end, where no number occurs twice.
  have hend := (invariant_serveAll (rs ++ .ask q :: between)).ask q'
  obtain ⟨ha, haq⟩ := of_find?_eq_some (find?_ask (hkept hclear) q')
  obtain ⟨hb, hbq⟩ := ask_mem_answers (empty.serveAll (rs ++ .ask q :: between)) q'
  have hab : a = b := List.inj_on_of_nodup_map hend.numbers_nodup ha hb hnumber
  exact ⟨haq.symm.trans (hab ▸ hbq), hclear⟩

end Memo

/-! ## Completion -/

namespace Completion

variable {c : Completion}

/-- A sound memo does not change what is suggested at a site. -/
theorem suggestFrom_eq {m : Memo} (h : m.IsSound) (p : RuleSet) (site : DeclarationSite) :
    (p.suggestFrom m site).1 = p.suggest site ∧ (p.suggestFrom m site).2.IsSound := by
  unfold RuleSet.suggestFrom RuleSet.suggest
  cases site.question? with
  | none => exact ⟨rfl, h⟩
  | some q => exact ⟨congrArg (p.candidates site) (h.ask_variants q), h.ask q⟩

/-- What a request changes is the memo, and the memo stays sound. -/
theorem provide_eq (h : c.memo.IsSound) (site : DeclarationSite) :
    (c.provide site).1 = (if c.options.showNameSuggestions then c.rules.suggest site else []) ∧
      ∃ memo : Memo, memo.IsSound ∧ (c.provide site).2 = { c with memo } := by
  unfold provide
  cases c.options.showNameSuggestions with
  | false => exact ⟨rfl, c.memo, h, rfl⟩
  | true =>
    cases c.options.cacheDecompositions with
    | false => exact ⟨rfl, c.memo, h, rfl⟩
    | true =>
      obtain ⟨hcandidates, hsound⟩ := suggestFrom_eq h c.rules site
      exact ⟨hcandidates, _, hsound, rfl⟩

/-- The candidates at several sites are those at each of them. -/
theorem provideAll_eq_map (h : c.memo.IsSound) (sites : List DeclarationSite) :
    c.provideAll sites =
      sites.map fun site => if c.options.showNameSuggestions then c.rules.suggest site else [] := by
  induction sites generalizing c with
  | nil => rfl
  | cons site sites ih =>
    obtain ⟨hcandidates, memo, hsound, hnext⟩ := provide_eq h site
    have hrest := ih (c := { c with memo }) hsound
    show (c.provide site).1 :: (c.provide site).2.provideAll sites = _
    rw [hcandidates, hnext, hrest, List.map_cons]

end Completion

/-- Whatever was asked of it, a memo answers with the decomposition of the type that it is asked about.
Two answers are one and the same, made by the same computation, exactly if the types are equal in all
their parts, phrases were asked for both times or neither time, and the memo was not cleared in between.
The memo holds as many answers as different questions were asked since it was cleared. A completion
gives the same candidates with a memo and without one, and they are those that each site suggests by
itself. -/
theorem Memo.remembers_spec :
    (∀ rs type asyncPhrases,
      ((empty.serveAll rs).ask ⟨type, asyncPhrases⟩).1.variants = type.decompose asyncPhrases) ∧
    (∀ rs between type asyncPhrases type' asyncPhrases',
      let a := ((empty.serveAll rs).ask ⟨type, asyncPhrases⟩).1
      let b := ((empty.serveAll (rs ++ .ask ⟨type, asyncPhrases⟩ :: between)).ask
        ⟨type', asyncPhrases'⟩).1
      (a.number = b.number ↔
        type = type' ∧ asyncPhrases = asyncPhrases' ∧ .clear ∉ between) ∧
        (a.number = b.number → a = b)) ∧
    (∀ rs, (empty.serveAll rs).size = (recentQuestions rs).toFinset.card) ∧
    ∀ (rules : RuleSet) (showNameSuggestions : Bool) (sites : List DeclarationSite),
      Completion.provideAll { rules, options := ⟨showNameSuggestions, true⟩ } sites =
        Completion.provideAll { rules, options := ⟨showNameSuggestions, false⟩ } sites ∧
      Completion.provideAll { rules, options := ⟨showNameSuggestions, true⟩ } sites =
        sites.map fun site => if showNameSuggestions then rules.suggest site else [] := by
  refine ⟨fun rs type asyncPhrases => ?_, ?_, fun rs => (invariant_serveAll rs).size_eq, ?_⟩
  · exact (invariant_serveAll rs).sound.ask_variants ⟨type, asyncPhrases⟩
  · intro rs between type asyncPhrases type' asyncPhrases' a b
    obtain ⟨hnumber, hsame⟩ :=
      number_eq_iff rs between ⟨type, asyncPhrases⟩ ⟨type', asyncPhrases'⟩
    refine ⟨?_, fun h => hsame (hnumber.1 h).1 (hnumber.1 h).2⟩
    rw [hnumber, Question.mk.injEq, and_assoc]
  · intro rules showNameSuggestions sites
    rw [Completion.provideAll_eq_map isSound_empty, Completion.provideAll_eq_map isSound_empty]
    exact ⟨rfl, rfl⟩

/-- A type with nothing known about it but its name. -/
def bareContainer : TypeRef :=
  .named { name := "Container".toList, scope := "App".toList }

/-- A type of the same name that is known to hold items. -/
def itemContainer : TypeRef :=
  let item : TypeRef := .named { name := "Item".toList, scope := "App".toList }
  .named
    { name := "Container".toList
      scope := "App".toList
      interfaces := [.named
        { name := "IEnumerable".toList
          scope := "System.Collections.Generic".toList
          kind := .interfaceType
          arguments := [item] }] }

/-- A property of each of the two types, and of the first again. -/
def containerSites : List DeclarationSite :=
  [bareContainer, itemContainer, bareContainer].map fun type =>
    { possibleKinds := [.property], type := some type }

/-- Two types of one spelling have answers of their own. The first keeps its answer when the second is
asked about, and loses it when the memo is cleared. -/
theorem Memo.remembers_spec_container :
    let askBare : Request := .ask ⟨bareContainer, false⟩
    let askItems : Request := .ask ⟨itemContainer, false⟩
    let names (m : Memo) (type : TypeRef) := (m.ask ⟨type, false⟩).1.variants.map fun v =>
      (Word.joined v.words, v.plural)
    let number (rs : List Request) (type : TypeRef) := ((empty.serveAll rs).ask ⟨type, false⟩).1.number
    bareContainer.identity = itemContainer.identity ∧
    names (empty.serveAll [askItems]) bareContainer = [("Container".toList, false)] ∧
    names (empty.serveAll [askBare]) itemContainer =
      [("Container".toList, false), ("Item".toList, true)] ∧
    number [] bareContainer = number [askBare, askItems] bareContainer ∧
    number [] bareContainer ≠ number [askBare] itemContainer ∧
    number [] bareContainer ≠ number [askBare, .clear] bareContainer ∧
    (empty.serveAll [.ask ⟨bareContainer, true⟩, .clear, askBare, askItems, askBare]).size = 2 ∧
    (Completion.provideAll { rules := .builtin } containerSites).map
      (fun candidates => candidates.map Candidate.text) =
      [["Container".toList], ["Container".toList, "Items".toList], ["Container".toList]] := by
  obtain ⟨hvariants, hnumber, hsize, hcompletion⟩ := Memo.remembers_spec
  have hne : bareContainer ≠ itemContainer := by decide
  intro askBare askItems names number
  refine ⟨by decide, ?_, ?_, ?_, ?_, ?_, ?_, ?_⟩
  · simp only [names, hvariants]
    decide +kernel
  · simp only [names, hvariants]
    decide +kernel
  · exact (hnumber [] [askItems] bareContainer false bareContainer false).1.2
      ⟨rfl, rfl, by decide⟩
  · intro h
    exact hne ((hnumber [] [] bareContainer false itemContainer false).1.1 h).1
  · intro h
    have hclear := ((hnumber [] [.clear] bareContainer false bareContainer false).1.1 h).2.2
    exact hclear List.mem_cons_self
  · rw [hsize]
    decide +kernel
  · rw [(hcompletion .builtin true containerSites).2]
    decide +kernel

end Nomenclator
