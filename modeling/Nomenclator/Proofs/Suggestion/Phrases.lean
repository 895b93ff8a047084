import Nomenclator.Proofs.Distinct
import Nomenclator.Proofs.Suggestion.Provenance

/-!
# Phrases are added to a decomposition

A decomposition with phrases for awaited things is the decomposition without them, in the same order,
with phrases of its variants put in between (`TypeRef.addsPhrases_decompose`). `AddsPhrases` says so of
two lists of variants. It is kept by every way to unwrap a type, whether phrases are asked for there or
not, so a run with phrases stays in step with a run without; in particular no phrase is made of another,
for what phrases are made of is found in the run that has none.

Main result: `TypeRef.decompose_phrases_spec`, which also says what a phrase is made of
(`NameVariant.IsPhraseOf`) and that every variant of an awaitable has its phrase.
-/

namespace Nomenclator

/-- The first list holds the variants of the second in order and, besides, phrases of these. -/
structure AddsPhrases (vs plain : List NameVariant) : Prop where
  filter_eq : vs.filter (fun v => !v.methodPhrase) = plain
  exists_of_phrase : ∀ v ∈ vs, v.methodPhrase = true → ∃ u ∈ plain, v = u.asyncPhrase

namespace AddsPhrases

variable {vs vs' plain plain' : List NameVariant}

theorem subset (h : AddsPhrases vs plain) : plain ⊆ vs := by
  rw [← h.filter_eq]
  exact List.filter_subset_self vs

theorem methodPhrase_eq_false (h : AddsPhrases vs plain) {v : NameVariant} (hv : v ∈ plain) :
    v.methodPhrase = false := by
  rw [← h.filter_eq] at hv
  simpa using (List.mem_filter.1 hv).2

/-- Nothing is added to variants of which none is a phrase. -/
theorem refl_of_forall (h : ∀ v ∈ vs, v.methodPhrase = false) : AddsPhrases vs vs where
  filter_eq := List.filter_eq_self.2 fun v hv => by simp [h v hv]
  exists_of_phrase := fun v hv hphrase => by simp [h v hv] at hphrase

theorem append (h : AddsPhrases vs plain) (h' : AddsPhrases vs' plain') :
    AddsPhrases (vs ++ vs') (plain ++ plain') where
  filter_eq := by rw [List.filter_append, h.filter_eq, h'.filter_eq]
  exists_of_phrase := by
    intro v hv hphrase
    rcases List.mem_append.1 hv with hv | hv
    · obtain ⟨u, hu, rfl⟩ := h.exists_of_phrase v hv hphrase
      exact ⟨u, List.mem_append_left _ hu, rfl⟩
    · obtain ⟨u, hu, rfl⟩ := h'.exists_of_phrase v hv hphrase
      exact ⟨u, List.mem_append_right _ hu, rfl⟩

theorem flatMap {α : Type} {l : List α} {f g : α → List NameVariant}
    (h : ∀ a ∈ l, AddsPhrases (f a) (g a)) : AddsPhrases (l.flatMap f) (l.flatMap g) := by
  induction l with
  | nil => exact refl_of_forall (by simp)
  | cons a l ih =>
    rw [List.flatMap_cons, List.flatMap_cons]
    exact (h a List.mem_cons_self).append (ih fun b hb => h b (List.mem_cons_of_mem a hb))

/-- What is removed as a repetition is a phrase in both lists or in neither. -/
theorem distinct (h : AddsPhrases vs plain) :
    AddsPhrases (Nomenclator.distinct vs) (Nomenclator.distinct plain) where
  filter_eq := by
    have htest : ∀ u v : NameVariant, id u = id v → (!u.methodPhrase) = !v.methodPhrase :=
      fun u v huv => congrArg (fun w : NameVariant => !w.methodPhrase) huv
    rw [Nomenclator.distinct, Nomenclator.distinct, ← distinctBy_filter htest, h.filter_eq]
  exists_of_phrase := by
    intro v hv hphrase
    obtain ⟨u, hu, rfl⟩ := h.exists_of_phrase v (mem_distinct.1 hv) hphrase
    exact ⟨u, mem_distinct.2 hu, rfl⟩

/-! ## Unwrapping by one step -/

theorem ofName (name : Text) (plural : Bool) :
    AddsPhrases (NameVariant.ofName name plural) (NameVariant.ofName name plural) := by
  apply refl_of_forall
  intro v hv
  have hplain : v.IsPlain [name] :=
    NameVariant.isPlain_of_mem_ofName (Or.inl List.mem_cons_self) hv
  exact hplain.1

theorem ownVariants (t : NamedType) (plural : Bool) :
    AddsPhrases (t.ownVariants plural) (t.ownVariants plural) :=
  refl_of_forall fun _ hv => (NameVariant.isPlain_of_mem_ownVariants hv).1

/-- The phrases that an awaitable adds are of variants that are no phrases. -/
theorem withAsyncPhrases (asyncPhrases : Bool) (h : AddsPhrases vs plain) :
    AddsPhrases (Nomenclator.withAsyncPhrases asyncPhrases vs) plain := by
  cases asyncPhrases with
  | false => exact h
  | true =>
    have hphrases : (((vs.filter fun v => !v.methodPhrase).map NameVariant.asyncPhrase).filter
        fun v => !v.methodPhrase) = [] := by
      rw [List.filter_map]
      exact List.map_eq_nil_iff.2 (List.filter_eq_nil_iff.2 fun v _ => by
        simp [NameVariant.asyncPhrase])
    show AddsPhrases (vs ++ (vs.filter fun v => !v.methodPhrase).map NameVariant.asyncPhrase) plain
    refine ⟨by rw [List.filter_append, hphrases, List.append_nil, h.filter_eq], ?_⟩
    intro v hv hphrase
    rcases List.mem_append.1 hv with hv | hv
    · exact h.exists_of_phrase v hv hphrase
    · rw [h.filter_eq] at hv
      obtain ⟨u, hu, rfl⟩ := List.mem_map.1 hv
      exact ⟨u, hu, rfl⟩

section Steps

variable {visit visit' : TypeRef → Bool → List NameVariant}

theorem unwrapNullable (hvisit : ∀ type plural, AddsPhrases (visit type plural) (visit' type plural))
    (inner : TypeRef) (plural : Bool) :
    AddsPhrases (Nomenclator.unwrapNullable visit inner plural)
      (Nomenclator.unwrapNullable visit' inner plural) := by
  by_cases hinner : inner.isNullable = true
  · rw [Nomenclator.unwrapNullable, Nomenclator.unwrapNullable, if_pos hinner, if_pos hinner]
    exact refl_of_forall (by simp)
  · rw [Nomenclator.unwrapNullable, Nomenclator.unwrapNullable, if_neg hinner, if_neg hinner]
    exact hvisit inner plural

theorem wrapping_unwrap (asyncPhrases : Bool)
    (hvisit : ∀ type plural, AddsPhrases (visit type plural) (visit' type plural)) (w : Wrapping)
    (plural : Bool) :
    AddsPhrases (w.unwrap asyncPhrases visit plural) (w.unwrap false visit' plural) := by
  obtain ⟨shape, argument⟩ := w
  cases shape with
  | enumerable => exact hvisit argument true
  | awaitable => exact (hvisit argument plural).withAsyncPhrases asyncPhrases
  | nullable => exact unwrapNullable hvisit argument plural

theorem namedType_unwrap (asyncPhrases : Bool)
    (hvisit : ∀ type plural, AddsPhrases (visit type plural) (visit' type plural)) (t : NamedType)
    (plural : Bool) :
    AddsPhrases (t.unwrap asyncPhrases visit plural) (t.unwrap false visit' plural) := by
  unfold NamedType.unwrap
  cases t.wrapping? with
  | some w => exact wrapping_unwrap asyncPhrases hvisit w plural
  | none =>
    exact (ownVariants t plural).append
      (flatMap fun w _ => wrapping_unwrap asyncPhrases hvisit w plural)

end Steps

end AddsPhrases

/-! ## Unwrapping all the way -/

namespace TypeRef

/-- The induction is on the number of types that may be visited; both runs visit the same types. -/
theorem addsPhrases_variants (asyncPhrases : Bool) (budget : Nat) (around : List Text)
    (type : TypeRef) (plural : Bool) :
    AddsPhrases (variants asyncPhrases budget around type plural)
      (variants false budget around type plural) := by
  induction budget generalizing around type plural with
  | zero => exact AddsPhrases.refl_of_forall (by simp [variants])
  | succ budget ih =>
    cases type with
    | void | error => exact AddsPhrases.refl_of_forall (by simp [variants])
    | predefined type =>
      simp only [variants]
      split
      · exact AddsPhrases.ofName _ plural
      · exact AddsPhrases.refl_of_forall (by simp)
    | typeParameter name => exact AddsPhrases.ofName name plural
    | array element => exact ih around element true
    | nullable inner => exact AddsPhrases.unwrapNullable (ih around) inner plural
    | «alias» name target =>
      simp only [variants]
      split
      · exact AddsPhrases.refl_of_forall (by simp)
      · exact (AddsPhrases.ofName name plural).append (ih around target plural)
    | named t =>
      simp only [variants]
      split
      · exact AddsPhrases.ownVariants t plural
      · exact AddsPhrases.namedType_unwrap asyncPhrases (ih (t.identity :: around)) t plural

/-- Asking for phrases adds phrases to the decomposition and changes nothing else. -/
theorem addsPhrases_decompose (asyncPhrases : Bool) (type : TypeRef) :
    AddsPhrases (type.decompose asyncPhrases) (type.decompose false) :=
  (addsPhrases_variants asyncPhrases _ [] type false).distinct

end TypeRef

/-! ## What phrases are made of -/

/-- The last word of a row is put in the plural and the words before it stay. -/
theorem Word.pluralizeLast_concat (front : List Word) (last : Word) :
    pluralizeLast (front ++ [last]) = front ++ [last.respell (pluralize last.text)] := by
  induction front with
  | nil => rfl
  | cons w front ih =>
    cases front with
    | nil => rfl
    | cons v front => exact congrArg (List.cons w) ih

/-- The first variant is the phrase of the second: in the singular, with the word for something
awaited behind the words of the other, of which the last is in the plural if the other is. -/
structure NameVariant.IsPhraseOf (v u : NameVariant) : Prop where
  methodPhrase_eq : v.methodPhrase = true
  plural_eq : v.plural = false
  exists_words : ∃ front last, u.words = front ++ [last] ∧
    v.words = front ++ [if u.plural then last.respell (Word.pluralize last.text) else last, asyncWord]

theorem NameVariant.isPhraseOf_asyncPhrase {u : NameVariant} (hne : u.words ≠ []) :
    u.asyncPhrase.IsPhraseOf u where
  methodPhrase_eq := rfl
  plural_eq := rfl
  exists_words := by
    obtain ⟨front, last, hwords⟩ := (List.eq_nil_or_concat u.words).resolve_left hne
    rw [List.concat_eq_append] at hwords
    refine ⟨front, last, hwords, ?_⟩
    cases hplural : u.plural with
    | false => simp [asyncPhrase, hwords, hplural]
    | true => simp [asyncPhrase, hwords, hplural, Word.pluralizeLast_concat]

namespace TypeRef

variable {type : TypeRef} {w : Wrapping}

/-- A type that is an awaitable by itself is unwrapped whatever the limits, for nothing is around
it. -/
theorem exists_decompose_eq_of_awaitable (asyncPhrases : Bool) (hw : type.wrapping? = some w)
    (hshape : w.shape = .awaitable) :
    ∃ vs, type.decompose asyncPhrases = distinct (withAsyncPhrases asyncPhrases vs) := by
  cases type with
  | named t =>
    replace hw : t.wrapping? = some w := hw
    have hguard : ¬ (maxUnwrapping = 0 ∨ t.identity ∈ ([] : List Text)) := by simp [maxUnwrapping]
    refine ⟨variants asyncPhrases maxUnwrapping [t.identity] w.argument false, ?_⟩
    rw [decompose, variants, if_neg hguard, NamedType.unwrap, hw]
    simp only [Wrapping.unwrap, hshape]
  | predefined | array | nullable | «alias» | typeParameter | void | error => cases hw

theorem exists_isPhraseOf_of_awaitable (hw : type.wrapping? = some w)
    (hshape : w.shape = .awaitable) {u : NameVariant} (hu : u ∈ type.decompose true)
    (hplain : u.methodPhrase = false) : ∃ v ∈ type.decompose true, v.IsPhraseOf u := by
  have hne : u.words ≠ [] := ((isFrom_of_mem_decompose hu).isPlain hplain).2.1
  refine ⟨u.asyncPhrase, ?_, NameVariant.isPhraseOf_asyncPhrase hne⟩
  obtain ⟨vs, hvs⟩ := exists_decompose_eq_of_awaitable true hw hshape
  rw [hvs, mem_distinct] at hu ⊢
  have hmem : u ∈ vs := by
    rcases List.mem_append.1 hu with hu | hu
    · exact hu
    · obtain ⟨v, -, rfl⟩ := List.mem_map.1 hu
      cases hplain
  exact List.mem_append_right vs
    (List.mem_map_of_mem (List.mem_filter.2 ⟨hmem, by simp [hplain]⟩))

/-- Phrases extend a decomposition conservatively. Without them no variant is a phrase; with them the
others are the same in the same order. Every phrase is that of a variant that is none, and of an
awaitable every such variant has its phrase. -/
theorem decompose_phrases_spec (type : TypeRef) :
    (∀ v ∈ type.decompose false, v.methodPhrase = false) ∧
      (type.decompose true).filter (fun v => !v.methodPhrase) = type.decompose false ∧
      (∀ v ∈ type.decompose true, v.methodPhrase = true →
        ∃ u ∈ type.decompose true, u.methodPhrase = false ∧ v.IsPhraseOf u) ∧
      ∀ w, type.wrapping? = some w → w.shape = .awaitable →
        ∀ u ∈ type.decompose true, u.methodPhrase = false →
          ∃ v ∈ type.decompose true, v.IsPhraseOf u := by
  have hadds : AddsPhrases (type.decompose true) (type.decompose false) :=
    addsPhrases_decompose true type
  refine ⟨fun v hv => hadds.methodPhrase_eq_false hv, hadds.filter_eq, ?_,
    fun w hw hshape u hu hplain => exists_isPhraseOf_of_awaitable hw hshape hu hplain⟩
  intro v hv hphrase
  obtain ⟨u, hu, rfl⟩ := hadds.exists_of_phrase v hv hphrase
  have hplain : u.methodPhrase = false := hadds.methodPhrase_eq_false hu
  have hne : u.words ≠ [] := ((isFrom_of_mem_decompose hu).isPlain hplain).2.1
  exact ⟨u, hadds.subset hu, hplain, NameVariant.isPhraseOf_asyncPhrase hne⟩

/-- A task for a task for several orders: the one phrase is `OrdersAsync`, which is in the singular. -/
theorem decompose_phrases_spec_task :
    let order : TypeRef := .named { name := "Order".toList }
    let task (type : TypeRef) : TypeRef := .named { name := "Task".toList, arguments := [type] }
    let type := task (task (.array order))
    let orders : NameVariant := { words := [.ofText "Order".toList], plural := true }
    let ordersAsync : NameVariant :=
      { words := [.ofText "Orders".toList, .ofText "Async".toList], plural := false,
        methodPhrase := true }
    type.wrapping? = some ⟨.awaitable, task (.array order)⟩ ∧
      type.decompose false = [orders] ∧ type.decompose true = [orders, ordersAsync] ∧
      (∃ v ∈ type.decompose true, v.IsPhraseOf orders) ∧
      ∃ u ∈ type.decompose true, u.methodPhrase = false ∧ ordersAsync.IsPhraseOf u := by
  intro order task type orders ordersAsync
  obtain ⟨-, hfilter, hphrases, hawaitable⟩ := decompose_phrases_spec type
  have hshape : type.wrapping? = some ⟨.awaitable, task (.array order)⟩ := by decide +kernel
  have hlist : type.decompose true = [orders, ordersAsync] := by decide +kernel
  have horders : orders ∈ type.decompose true := by simp [hlist]
  have hphrase : ordersAsync ∈ type.decompose true := by simp [hlist]
  refine ⟨hshape, ?_, hlist, hawaitable _ hshape rfl orders horders rfl,
    hphrases ordersAsync hphrase rfl⟩
  rw [← hfilter, hlist]
  rfl

end TypeRef

end Nomenclator
