import Nomenclator.Proofs.Style.Unmarked
import Nomenclator.Proofs.Suggestion.Compliance

/-!
# Names of siblings

A name that a sibling has is not suggested, and that is all that siblings do: the candidates at a
site are those at the same site without siblings, less the ones that a sibling has, and these keep
their order and their kinds (`suggest_eq_filter_siblingNames`).

Two things could stand in the way. Names are compared before they get the verbatim mark and
repetitions are found after; but no rendered name starts with the mark, so taking it off a candidate
gives back the name that was compared (`unescape_escape_of_mem_names`). And a name that is taken
does not count as suggested, so a kind behind could suggest it again; but it is taken for every kind
(`distinctBy_filter`).
-/

namespace Nomenclator

/-! ## Phrases -/

namespace NameVariant

variable {names : List Text} {v : NameVariant}

theorem isUnmarked_of_mem_phrases (h : v.IsFrom names) {phrase : List Word}
    (hphrase : phrase ∈ v.phrases) :
    (if v.plural then Word.pluralizeLast phrase else phrase) ≠ [] ∧
      ∀ w ∈ if v.plural then Word.pluralizeLast phrase else phrase, w.text.IsUnmarked := by
  have hsource : ∀ source, IsSource names source →
      ∀ w ∈ Word.breakWords source, w.text.IsUnmarked :=
    fun _ _ w hw => Word.isUnmarked_of_mem_breakWords hw
  have hplural : ∀ w : Word, w.text.IsUnmarked → (w.respell (Word.pluralize w.text)).text.IsUnmarked :=
    fun w hw => Word.isUnmarked_pluralize hw
  exact forall_mem_rendered hsource (fun w hw => hw) hplural
    (Word.isUnmarked_of_mem_breakWords asyncWord_mem_breakWords) h hphrase

/-- The verbatim mark of a candidate can be told from its name. -/
theorem unescape_escape_of_mem_names {style : Style}
    (hstyle : style.requiredPrefix.head? ≠ some Reserved.verbatimMark) (h : v.IsFrom names)
    {name : Text} (hname : name ∈ v.names style) :
    Reserved.unescape (Reserved.escape name) = name := by
  obtain ⟨phrase, hphrase, rfl⟩ := List.mem_map.1 hname
  obtain ⟨hne, hwords⟩ := isUnmarked_of_mem_phrases h hphrase
  exact Reserved.unescape_escape (Style.head?_render_ne_of_isUnmarked hstyle hne hwords)

end NameVariant

/-! ## Sites -/

namespace DeclarationSite

/-- A sibling has the name of the candidate; neither verbatim mark counts. -/
def takes (site : DeclarationSite) (c : Candidate) : Bool :=
  site.siblingNames.any fun sibling => Reserved.unescape sibling == Reserved.unescape c.text

/-- The site without siblings. -/
def alone (site : DeclarationSite) : DeclarationSite := { site with siblingNames := [] }

theorem isOpen_eq_alone (site : DeclarationSite) (name : Text) :
    site.isOpen name = (site.alone.isOpen name && !site.isTaken name) := by
  simp [isOpen, isTaken, alone]

end DeclarationSite

/-! ## Candidates -/

namespace RuleSet

variable {p : RuleSet} {site : DeclarationSite}

/-- Siblings take away candidates for one kind. -/
theorem candidatesFor_eq_filter (hstyles : ∀ style ∈ p.styles,
      style.requiredPrefix.head? ≠ some Reserved.verbatimMark)
    {names : List Text} {vs : List NameVariant} (hvs : ∀ v ∈ vs, v.IsFrom names)
    (kind : SymbolKind) :
    p.candidatesFor site vs kind =
      (p.candidatesFor site.alone vs kind).filter fun c => !site.takes c := by
  have hstyle := styleFor_induction
    (P := fun style => style.requiredPrefix.head? ≠ some Reserved.verbatimMark) hstyles
    (fun kind => (builtinStyle_affixes kind).1) (site.symbol kind)
  unfold candidatesFor
  simp only
  rw [List.filter_map, List.filter_filter]
  refine congrArg _ (List.filter_congr fun name hname => ?_)
  obtain ⟨v, hv, hname⟩ := List.mem_flatMap.1 hname
  have hbare := NameVariant.unescape_escape_of_mem_names hstyle (hvs v (List.mem_of_mem_filter hv))
    hname
  rw [site.isOpen_eq_alone, Bool.and_comm]
  simp only [Function.comp, DeclarationSite.takes, DeclarationSite.isTaken, hbare]

theorem candidates_eq_filter (hstyles : ∀ style ∈ p.styles,
      style.requiredPrefix.head? ≠ some Reserved.verbatimMark)
    {names : List Text} {vs : List NameVariant} (hvs : ∀ v ∈ vs, v.IsFrom names) :
    p.candidates site vs = (p.candidates site.alone vs).filter fun c => !site.takes c := by
  have hkey : ∀ a b : Candidate, a.text = b.text → (!site.takes a) = !site.takes b := by
    intro a b hab
    rw [DeclarationSite.takes, DeclarationSite.takes, hab]
  unfold candidates
  rw [← distinctBy_filter hkey, List.filter_flatMap]
  refine congrArg _ (List.flatMap_congr fun kind _ => ?_)
  exact candidatesFor_eq_filter hstyles hvs kind

/-- Siblings only take candidates away, namely those whose names they have. -/
theorem suggest_eq_filter_siblingNames (p : RuleSet)
    (hstyles : ∀ style ∈ p.styles, style.requiredPrefix.head? ≠ some Reserved.verbatimMark)
    (site : DeclarationSite) (siblings : List Text) :
    p.suggest { site with siblingNames := siblings } =
      (p.suggest { site with siblingNames := [] }).filter fun c =>
        Reserved.unescape c.text ∉ siblings.map Reserved.unescape := by
  have hquestion : DeclarationSite.question? { site with siblingNames := siblings } =
      DeclarationSite.question? { site with siblingNames := [] } := rfl
  unfold suggest
  rw [hquestion]
  cases DeclarationSite.question? { site with siblingNames := [] } with
  | none => rfl
  | some q =>
    have hvs : ∀ v ∈ q.type.decompose q.asyncPhrases, v.IsFrom q.type.names :=
      fun v hv => TypeRef.isFrom_of_mem_decompose hv
    show p.candidates { site with siblingNames := siblings } (q.type.decompose q.asyncPhrases) = _
    rw [candidates_eq_filter hstyles hvs]
    refine List.filter_congr fun c _ => Bool.eq_iff_iff.2 ?_
    simp [DeclarationSite.takes]

/-- A field or a property of a class `MyClass`, beside a verbatim `@class` and a `My`. The names `my`
and `Class` differ from these in case and stay. -/
theorem suggest_eq_filter_siblingNames_myClass :
    ∃ (site : DeclarationSite) (siblings : List Text),
      (∀ style ∈ builtin.styles, style.requiredPrefix.head? ≠ some Reserved.verbatimMark) ∧
      builtin.suggest { site with siblingNames := siblings } =
        ((builtin.suggest { site with siblingNames := [] }).filter fun c =>
          Reserved.unescape c.text ∉ siblings.map Reserved.unescape) ∧
      (builtin.suggest { site with siblingNames := [] }).map Candidate.text =
        ["myClass".toList, "my".toList, "@class".toList, "MyClass".toList, "My".toList,
          "Class".toList] ∧
      (builtin.suggest { site with siblingNames := siblings }).map Candidate.text =
        ["myClass".toList, "my".toList, "MyClass".toList, "Class".toList] :=
  ⟨{ possibleKinds := [.property, .field]
     type := some (.named { name := "MyClass".toList }) },
    ["@class".toList, "My".toList],
    fun style hstyle => (builtin_affixes style hstyle).1,
    suggest_eq_filter_siblingNames builtin (fun style hstyle => (builtin_affixes style hstyle).1) _ _,
    by decide +kernel, by decide +kernel⟩

end RuleSet

end Nomenclator
