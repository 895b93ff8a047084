import Nomenclator.Proofs.TypeRef.Names
import Nomenclator.Proofs.Word.Grouping
import Nomenclator.Proofs.Word.Plural
import Nomenclator.Suggestion.Basic

/-!
# Where the words of a variant come from

A variant holds the words of one source: a name in the type, such a name without its interface mark,
the run-time name of a predefined type, or the word for a nullable of a nullable. A phrase for
something awaited is made of such a variant, and never of another phrase
(`isFrom_of_mem_decompose`).

Each way to unwrap a type is shown to keep this, if visiting the types that it wraps does; the run
over a type is then an induction on the number of types that may be visited.

Where the names in a type are ASCII, all words that its names are rendered from are words of ASCII
names or plurals of such (`inflected_of_mem_phrases`).
-/

namespace Nomenclator

/-- The sources that are in no type. -/
def builtinSources : List Text :=
  "Nullable".toList :: PredefinedType.all.map fun type => type.runtimeName.toList

/-- Words of variants can be taken from this text, if a type is written with these names. -/
def IsSource (names : List Text) (source : Text) : Prop :=
  source ∈ names ∨ 'I' :: source ∈ names ∨ source ∈ builtinSources

namespace NameVariant

variable {names : List Text} {v : NameVariant}

/-- The variant holds the words of a source and is no phrase. -/
def IsPlain (names : List Text) (v : NameVariant) : Prop :=
  v.methodPhrase = false ∧ v.words ≠ [] ∧
    ∃ source, IsSource names source ∧ v.words = Word.breakWords source

/-- The variant holds the words of a source, or is the phrase of one that does. -/
def IsFrom (names : List Text) (v : NameVariant) : Prop :=
  v.IsPlain names ∨ ∃ u : NameVariant, u.IsPlain names ∧ v = u.asyncPhrase

theorem IsPlain.mono {names' : List Text} (h : v.IsPlain names) (hsub : names ⊆ names') :
    v.IsPlain names' := by
  obtain ⟨hphrase, hne, source, hsource, hwords⟩ := h
  refine ⟨hphrase, hne, source, ?_, hwords⟩
  rcases hsource with hname | hmarked | hbuiltin
  · exact Or.inl (hsub hname)
  · exact Or.inr (Or.inl (hsub hmarked))
  · exact Or.inr (Or.inr hbuiltin)

theorem IsFrom.mono {names' : List Text} (h : v.IsFrom names) (hsub : names ⊆ names') :
    v.IsFrom names' := by
  rcases h with hplain | ⟨u, hu, rfl⟩
  · exact Or.inl (hplain.mono hsub)
  · exact Or.inr ⟨u, hu.mono hsub, rfl⟩

/-- A variant that is no phrase was not made of another. -/
theorem IsFrom.isPlain (h : v.IsFrom names) (hphrase : v.methodPhrase = false) :
    v.IsPlain names := by
  rcases h with hplain | ⟨u, -, rfl⟩
  · exact hplain
  · cases hphrase

theorem isPlain_of_mem_ofName {source : Text} {plural : Bool} (hsource : IsSource names source)
    (h : v ∈ ofName source plural) : v.IsPlain names := by
  unfold ofName at h
  split at h
  · cases h
  · rename_i hne
    rw [List.mem_singleton.1 h]
    exact ⟨rfl, hne, source, hsource, rfl⟩

theorem isPlain_of_mem_ownVariants {t : NamedType} {plural : Bool}
    (h : v ∈ t.ownVariants plural) : v.IsPlain t.names := by
  rcases List.mem_append.1 h with h | h
  · exact isPlain_of_mem_ofName (Or.inl t.name_mem_names) h
  · split at h
    · split at h
      · rename_i name hname
        refine isPlain_of_mem_ofName (Or.inr (Or.inl ?_)) h
        have hmarked : t.name = 'I' :: name := by
          unfold stripInterfaceMark? at hname
          split at hname
          · rename_i c rest htext
            split at hname
            · cases hname
              exact htext
            · cases hname
          · cases hname
        rw [← hmarked]
        exact t.name_mem_names
      · cases h
    · cases h

end NameVariant

/-! ## Unwrapping by one step -/

section Steps

variable {names : List Text} {visit : TypeRef → Bool → List NameVariant}

theorem isFrom_of_mem_unwrapNullable {inner : TypeRef} {plural : Bool} {v : NameVariant}
    (hvisit : ∀ v ∈ visit inner plural, v.IsFrom names)
    (h : v ∈ unwrapNullable visit inner plural) : v.IsFrom names := by
  have hword : [nullableWord] = Word.breakWords "Nullable".toList := by cbv
  have hsource : IsSource names "Nullable".toList := Or.inr (Or.inr List.mem_cons_self)
  unfold unwrapNullable at h
  split at h
  · rcases List.mem_cons.1 h with rfl | h
    · exact Or.inl ⟨rfl, by simp, _, hsource, hword⟩
    · rw [List.mem_singleton.1 h]
      exact Or.inl ⟨rfl, by simp, _, hsource, hword⟩
  · exact hvisit v h

/-- A phrase is made only of variants that are no phrases. -/
theorem isFrom_of_mem_withAsyncPhrases {asyncPhrases : Bool} {vs : List NameVariant}
    (hvs : ∀ v ∈ vs, v.IsFrom names) {v : NameVariant}
    (h : v ∈ withAsyncPhrases asyncPhrases vs) : v.IsFrom names := by
  unfold withAsyncPhrases at h
  split at h
  · rcases List.mem_append.1 h with h | h
    · exact hvs v h
    · obtain ⟨u, hu, rfl⟩ := List.mem_map.1 h
      obtain ⟨hmem, hphrase⟩ := List.mem_filter.1 hu
      exact Or.inr ⟨u, (hvs u hmem).isPlain (by simpa using hphrase), rfl⟩
  · exact hvs v h

theorem isFrom_of_mem_wrapping_unwrap {asyncPhrases : Bool} {w : Wrapping} {plural : Bool}
    (hvisit : ∀ plural, ∀ v ∈ visit w.argument plural, v.IsFrom names) {v : NameVariant}
    (h : v ∈ w.unwrap asyncPhrases visit plural) : v.IsFrom names := by
  unfold Wrapping.unwrap at h
  split at h
  · exact hvisit true v h
  · exact isFrom_of_mem_withAsyncPhrases (hvisit plural) h
  · exact isFrom_of_mem_unwrapNullable (hvisit plural) h

theorem isFrom_of_mem_namedType_unwrap {asyncPhrases : Bool} {t : NamedType} {plural : Bool}
    (hvisit : ∀ type plural, ∀ v ∈ visit type plural, v.IsFrom type.names) {v : NameVariant}
    (h : v ∈ t.unwrap asyncPhrases visit plural) : v.IsFrom t.names := by
  have hwithin : ∀ w : Wrapping, w.argument.names ⊆ t.names →
      v ∈ w.unwrap asyncPhrases visit plural → v.IsFrom t.names :=
    fun w hsub hv => isFrom_of_mem_wrapping_unwrap
      (fun plural u hu => (hvisit w.argument plural u hu).mono hsub) hv
  unfold NamedType.unwrap at h
  split at h
  · rename_i w hw
    exact hwithin w (NamedType.names_wrapping?_subset hw) h
  · rcases List.mem_append.1 h with h | h
    · exact Or.inl (NameVariant.isPlain_of_mem_ownVariants h)
    · obtain ⟨w, hw, hv⟩ := List.mem_flatMap.1 h
      exact hwithin w (NamedType.names_inherited_subset hw) hv

end Steps

/-! ## Unwrapping all the way -/

namespace TypeRef

/-- The induction is on the number of types that may be visited. -/
theorem isFrom_of_mem_variants {asyncPhrases : Bool} {budget : Nat} {around : List Text}
    {type : TypeRef} {plural : Bool} {v : NameVariant}
    (h : v ∈ variants asyncPhrases budget around type plural) : v.IsFrom type.names := by
  induction budget generalizing around type plural v with
  | zero => cases h
  | succ budget ih =>
    cases type with
    | void | error => cases h
    | predefined type =>
      simp only [variants] at h
      split at h
      · refine Or.inl (NameVariant.isPlain_of_mem_ofName (Or.inr (Or.inr ?_)) h)
        exact List.mem_cons_of_mem _ (List.mem_map.2 ⟨type, type.mem_all, rfl⟩)
      · cases h
    | typeParameter name =>
      exact Or.inl (NameVariant.isPlain_of_mem_ofName (Or.inl List.mem_cons_self) h)
    | array element =>
      simp only [variants] at h
      rw [names]
      exact ih h
    | nullable inner =>
      simp only [variants] at h
      rw [names]
      exact isFrom_of_mem_unwrapNullable (fun v hv => ih hv) h
    | «alias» name target =>
      simp only [variants] at h
      split at h
      · cases h
      · rcases List.mem_append.1 h with h | h
        · exact Or.inl (NameVariant.isPlain_of_mem_ofName (Or.inl List.mem_cons_self) h)
        · exact (ih h).mono (List.subset_cons_self name target.names)
    | named t =>
      simp only [variants] at h
      split at h
      · exact Or.inl (NameVariant.isPlain_of_mem_ownVariants h)
      · exact isFrom_of_mem_namedType_unwrap (fun type plural v hv => ih hv) h

/-- Every variant of a type holds the words of a source, or is the phrase of one that does. -/
theorem isFrom_of_mem_decompose {asyncPhrases : Bool} {type : TypeRef} {v : NameVariant}
    (h : v ∈ type.decompose asyncPhrases) : v.IsFrom type.names :=
  isFrom_of_mem_variants (mem_distinct.1 h)

end TypeRef

/-! ## The words of a phrase -/

theorem Word.of_mem_groupings {ws g : List Word} (h : g ∈ Word.groupings ws) :
    g ≠ [] ∧ g ⊆ ws := by
  obtain ⟨hne, hfront | hback⟩ := mem_groupings_iff.1 h
  · exact ⟨hne, hfront.subset⟩
  · exact ⟨hne, hback.subset⟩

namespace NameVariant

variable {names : List Text} {v : NameVariant}

theorem of_mem_phrases (hne : v.words ≠ []) {phrase : List Word} (h : phrase ∈ v.phrases) :
    phrase ≠ [] ∧ phrase ⊆ v.words := by
  unfold phrases at h
  split at h
  · rw [List.mem_singleton.1 h]
    exact ⟨hne, fun _ hw => hw⟩
  · exact Word.of_mem_groupings h

theorem IsPlain.forall_mem_words {P : Word → Prop} (h : v.IsPlain names)
    (hsource : ∀ source, IsSource names source → ∀ w ∈ Word.breakWords source, P w) :
    ∀ w ∈ v.words, P w := by
  obtain ⟨-, -, source, hs, heq⟩ := h
  rw [heq]
  exact hsource source hs

/-- The words of a phrase as they are rendered. What holds of the words of every source, and still
of their plurals, holds of them. -/
theorem forall_mem_rendered {P Q : Word → Prop}
    (hsource : ∀ source, IsSource names source → ∀ w ∈ Word.breakWords source, P w)
    (hkept : ∀ w, P w → Q w) (hplural : ∀ w, P w → Q (w.respell (Word.pluralize w.text)))
    (hasync : Q asyncWord) (h : v.IsFrom names) {phrase : List Word} (hphrase : phrase ∈ v.phrases) :
    (if v.plural then Word.pluralizeLast phrase else phrase) ≠ [] ∧
      ∀ w ∈ if v.plural then Word.pluralizeLast phrase else phrase, Q w := by
  rcases h with hplain | ⟨u, hu, rfl⟩
  · obtain ⟨hne, hsub⟩ := of_mem_phrases hplain.2.1 hphrase
    have hwords := hplain.forall_mem_words hsource
    exact ⟨Word.ite_pluralizeLast_ne_nil v.plural hne,
      Word.forall_mem_ite_pluralizeLast hkept hplural v.plural fun w hw => hwords w (hsub hw)⟩
  · -- The words of a phrase are in the plural already, and its last word is never put there.
    obtain ⟨hne, hsub⟩ := of_mem_phrases (by simp [asyncPhrase]) hphrase
    have hwords := Word.forall_mem_ite_pluralizeLast hkept hplural u.plural
      (hu.forall_mem_words hsource)
    refine ⟨hne, fun w hw => ?_⟩
    rcases List.mem_append.1 (hsub hw) with hw | hw
    · exact hwords w hw
    · rw [List.mem_singleton.1 hw]
      exact hasync

theorem asyncWord_mem_breakWords : asyncWord ∈ Word.breakWords "Async".toList := by
  rw [show Word.breakWords "Async".toList = [asyncWord] by cbv]
  exact List.mem_cons_self

theorem isAscii_of_isSource (hnames : ∀ name ∈ names, name.IsAscii) {source : Text}
    (h : IsSource names source) : source.IsAscii := by
  have hbuiltin : ∀ source ∈ builtinSources, source.all (fun c => c.toNat < 128) = true := by
    decide
  rcases h with hname | hmarked | hsource
  · exact hnames source hname
  · exact (Text.isAscii_cons.1 (hnames _ hmarked)).2
  · intro c hc
    exact of_decide_eq_true (List.all_eq_true.1 (hbuiltin source hsource) c hc)

/-- The words that a name is rendered from are words of ASCII names and plurals of such. -/
theorem inflected_of_mem_phrases (hnames : ∀ name ∈ names, name.IsAscii) (h : v.IsFrom names)
    {phrase : List Word} (hphrase : phrase ∈ v.phrases) :
    (if v.plural then Word.pluralizeLast phrase else phrase) ≠ [] ∧
      ∀ w ∈ if v.plural then Word.pluralizeLast phrase else phrase, w.Inflected := by
  have hsource : ∀ source, IsSource names source → ∀ w ∈ Word.breakWords source, w.IsOrdinary :=
    fun source hs w hw => Word.isOrdinary_of_mem_breakWords (isAscii_of_isSource hnames hs) hw
  have hascii : Text.IsAscii "Async".toList := by simp [Text.IsAscii]
  have hasync : asyncWord.Inflected :=
    (Word.isOrdinary_of_mem_breakWords hascii asyncWord_mem_breakWords).inflected
  exact forall_mem_rendered hsource (fun w hw => hw.inflected) (fun w hw => ⟨w, hw, Or.inr rfl⟩)
    hasync h hphrase

end NameVariant

end Nomenclator
