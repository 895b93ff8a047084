import Nomenclator.CommandLine.Execution
import Nomenclator.Proofs.Config.Meaning
import Nomenclator.Proofs.Rules.Lookup

/-!
# When a check fails

The command that checks a name fails if the first rule that concerns the symbol has a style that the name
does not comply with, and succeeds otherwise (`Command.run_check_exitCode`). The severity of the rule is
printed and does not count. So the failures are those that are to be reported for all rules but those of
the severity `none`, which make the command fail like any other (`Command.run_check_silentRule`).
-/

namespace Nomenclator

/-! ## Broken rules -/

namespace RuleSet

variable {p : RuleSet} {symbol : Symbol} {r r' : ResolvedRule}

/-- The first rule that concerns the symbol refers to this specification and this style and has this
severity. -/
def Governs (p : RuleSet) (r : ResolvedRule) (symbol : Symbol) : Prop :=
  ∃ before rule after, p.rules = before ++ rule :: after ∧ p.Resolves rule r ∧
    p.Concerns rule symbol ∧ ∀ q ∈ before, ¬ p.Concerns q symbol

/-- The rule that governs the symbol has a style that the name does not comply with. -/
def Breaks (p : RuleSet) (symbol : Symbol) (name : Text) : Prop :=
  ∃ r, p.Governs r symbol ∧ r.style.isCompliant name = false

/-- The name breaks the rule that governs the symbol, and the rule is one that is reported. -/
def BreaksReported (p : RuleSet) (symbol : Symbol) (name : Text) : Prop :=
  ∃ r, p.Governs r symbol ∧ r.severity ≠ .none ∧ r.style.isCompliant name = false

theorem governs_iff : p.Governs r symbol ↔ p.governingRule? symbol = some r :=
  governingRule?_eq_some_iff.symm

theorem Governs.unique (h : p.Governs r symbol) (h' : p.Governs r' symbol) : r' = r := by
  rw [governs_iff] at h h'
  exact Option.some.inj (h'.symm.trans h)

theorem Governs.breaks_iff (h : p.Governs r symbol) (name : Text) :
    p.Breaks symbol name ↔ r.style.isCompliant name = false := by
  constructor
  · rintro ⟨q, hq, hbroken⟩
    rwa [h.unique hq] at hbroken
  · exact fun hbroken => ⟨r, h, hbroken⟩

/-- A broken rule is not reported if it has the severity `none`. -/
theorem Governs.not_breaksReported (h : p.Governs r symbol) (hsilent : r.severity = .none)
    (name : Text) : ¬ p.BreaksReported symbol name := by
  rintro ⟨q, hq, hseverity, -⟩
  rw [h.unique hq] at hseverity
  exact hseverity hsilent

/-- Among rules that are reported, the broken ones are the broken ones that are reported. -/
theorem breaks_iff_breaksReported (h : ∀ r, p.Governs r symbol → r.severity ≠ .none)
    (name : Text) : p.Breaks symbol name ↔ p.BreaksReported symbol name := by
  constructor
  · rintro ⟨r, hr, hbroken⟩
    exact ⟨r, hr, h r hr, hbroken⟩
  · rintro ⟨r, hr, -, hbroken⟩
    exact ⟨r, hr, hbroken⟩

end RuleSet

/-! ## The outcome of a check -/

/-- A check fails with the exit code 1 if the name breaks the rule that governs the symbol, and else
succeeds. -/
theorem NamingConfig.check_exitCode (config : NamingConfig) (symbol : Symbol) (name : Text) :
    (config.check symbol name).exitCode = 1 ∧ config.rules.Breaks symbol name ∨
      (config.check symbol name).exitCode = 0 ∧ ¬ config.rules.Breaks symbol name := by
  unfold check
  cases hrule : config.rules.governingRule? symbol with
  | none =>
    refine Or.inr ⟨rfl, ?_⟩
    rintro ⟨r, hr, -⟩
    rw [RuleSet.governs_iff, hrule] at hr
    cases hr
  | some r =>
    rw [(RuleSet.governs_iff.2 hrule).breaks_iff]
    -- The violation comes from a second look-up, which finds the same rule.
    simp only [RuleSet.checkName, hrule]
    cases hcompliant : r.style.isCompliant name with
    | true => exact Or.inr ⟨rfl, by simp⟩
    | false => exact Or.inl ⟨rfl, rfl⟩

/-! ## The command -/

namespace Command

variable {files : ReadFile} {draw : Nat → Uuid} {path t : Text}

/-- With the configuration of a text, checking is the check of this configuration. -/
theorem run_check {config : NamingConfig} (hfile : files path = .ok t)
    (hconfig : (NamingConfig.read draw t).1 = .ok config) (symbol : Symbol) (name : Text) :
    (check symbol name (some path)).run files draw = .ok (config.check symbol name) := by
  have hload : loadConfig files draw (some path) = .ok config := by
    simp only [loadConfig, hfile, hconfig, Except.mapError]
  -- The match on the command is by unfolding; what is left begins with the configuration.
  show (do let config ← loadConfig files draw (some path); pure (config.check symbol name)) = _
  rw [hload]
  rfl

/-- Whatever the configuration says and whatever symbol and name are checked, the command comes to an
outcome. It fails exactly if the name does not comply with the style of the first rule that concerns the
symbol, and succeeds in all other cases. If this rule is one that is reported, these are the violations
that are reported. -/
theorem run_check_exitCode (hfile : files path = .ok t)
    (hdraw : NamingConfig.DrawsDistinct draw t) (symbol : Symbol) (name : Text) :
    ∃ config outcome, (NamingConfig.read draw t).1 = .ok config ∧
      (check symbol name (some path)).run files draw = .ok outcome ∧
      (outcome.exitCode = 1 ↔ config.rules.Breaks symbol name) ∧
      (outcome.exitCode = 0 ↔ ¬ config.rules.Breaks symbol name) ∧
      ((∀ r, config.rules.Governs r symbol → r.severity ≠ .none) →
        (outcome.exitCode = 1 ↔ config.rules.BreaksReported symbol name)) := by
  obtain ⟨config, hconfig, -⟩ := NamingConfig.exists_read_eq_ok hdraw
  have hcodes : ((config.check symbol name).exitCode = 1 ↔ config.rules.Breaks symbol name) ∧
      ((config.check symbol name).exitCode = 0 ↔ ¬ config.rules.Breaks symbol name) := by
    rcases config.check_exitCode symbol name with ⟨hcode, hbreaks⟩ | ⟨hcode, hkept⟩
    · simp [hcode, hbreaks]
    · simp [hcode, hkept]
  refine ⟨config, config.check symbol name, hconfig, run_check hfile hconfig symbol name,
    hcodes.1, hcodes.2, fun hreported => ?_⟩
  rw [hcodes.1, RuleSet.breaks_iff_breaksReported hreported]

/-! ## Rules that are and rules that are not reported -/

/-- One rule of a severity for all symbols, in Pascal case. -/
def ruleOfSeverity (severity : Severity) : Text :=
  Text.joinWith ['\n']
    ["naming_rule.r.symbols=s".toList, "naming_rule.r.style=p".toList,
      "naming_rule.r.severity=".toList ++ severity.canonical.toList,
      "naming_style.p.capitalization=pascal_case".toList]

/-- Properties are governed by the rule, which has this severity and wants a capital at the front. -/
theorem exists_governs_ruleOfSeverity (severity : Severity) :
    ∃ config r, (NamingConfig.read .ofNat (ruleOfSeverity severity)).1 = .ok config ∧
      config.rules.Governs r { kind := .property } ∧ r.severity = severity ∧
      r.style.isCompliant "count".toList = false ∧ r.style.isCompliant "Count".toList = true := by
  have hread : (NamingConfig.read .ofNat (ruleOfSeverity severity)).1.map (fun config =>
      (config.rules.governingRule? { kind := .property }).map fun r =>
        (r.severity, r.style.isCompliant "count".toList, r.style.isCompliant "Count".toList)) =
      .ok (some (severity, false, true)) := by
    cases severity <;> decide +kernel
  cases hconfig : (NamingConfig.read .ofNat (ruleOfSeverity severity)).1 with
  | error e =>
    rw [hconfig] at hread
    cases hread
  | ok config =>
    rw [hconfig] at hread
    obtain ⟨r, hr, hparts⟩ := Option.map_eq_some_iff.1 (Except.ok.inj hread)
    simp only [Prod.mk.injEq] at hparts
    exact ⟨config, r, rfl, RuleSet.governs_iff.2 hr, hparts⟩

/-- With a rule of the severity `warning` the check of a property fails for a small letter at the front,
which is a violation that is reported, and succeeds for a capital. -/
theorem run_check_exitCode_warning :
    NamingConfig.DrawsDistinct .ofNat (ruleOfSeverity .warning) ∧
      ∃ config broken kept,
        (NamingConfig.read .ofNat (ruleOfSeverity .warning)).1 = .ok config ∧
        (check { kind := .property } "count".toList (some [])).run
          (fun _ => .ok (ruleOfSeverity .warning)) .ofNat = .ok broken ∧
        broken.exitCode = 1 ∧
        config.rules.BreaksReported { kind := .property } "count".toList ∧
        (check { kind := .property } "Count".toList (some [])).run
          (fun _ => .ok (ruleOfSeverity .warning)) .ofNat = .ok kept ∧
        kept.exitCode = 0 ∧ ¬ config.rules.Breaks { kind := .property } "Count".toList := by
  have hdraw : NamingConfig.DrawsDistinct .ofNat (ruleOfSeverity .warning) := by decide +kernel
  obtain ⟨config, r, hconfig, hr, hseverity, hcount, hCount⟩ :=
    exists_governs_ruleOfSeverity .warning
  have hreported : ∀ q, config.rules.Governs q { kind := .property } → q.severity ≠ .none := by
    intro q hq
    rw [hr.unique hq, hseverity]
    decide
  obtain ⟨c, broken, hc, hbroken, hfails, -, hreports⟩ :=
    @run_check_exitCode (fun _ => .ok (ruleOfSeverity .warning)) .ofNat [] _ rfl hdraw
      { kind := .property } "count".toList
  obtain ⟨c', kept, hc', hkept, -, hsucceeds, -⟩ :=
    @run_check_exitCode (fun _ => .ok (ruleOfSeverity .warning)) .ofNat [] _ rfl hdraw
      { kind := .property } "Count".toList
  cases Except.ok.inj (hconfig.symm.trans hc)
  cases Except.ok.inj (hconfig.symm.trans hc')
  have hone : broken.exitCode = 1 := hfails.2 ((hr.breaks_iff _).2 hcount)
  have hkeeps : ¬ config.rules.Breaks { kind := .property } "Count".toList := by
    rw [hr.breaks_iff, hCount]
    decide
  exact ⟨hdraw, config, broken, kept, hconfig, hbroken, hone, (hreports hreported).1 hone, hkept,
    hsucceeds.2 hkeeps, hkeeps⟩

/-- With a rule of the severity `none` it fails for a small letter at the front too, although no
violation is to be reported. -/
theorem run_check_silentRule :
    ∃ config outcome, (NamingConfig.read .ofNat (ruleOfSeverity .none)).1 = .ok config ∧
      (check { kind := .property } "count".toList (some [])).run
        (fun _ => .ok (ruleOfSeverity .none)) .ofNat = .ok outcome ∧
      outcome.exitCode = 1 ∧
      ¬ config.rules.BreaksReported { kind := .property } "count".toList := by
  obtain ⟨config, r, hconfig, hr, hseverity, hcount, -⟩ := exists_governs_ruleOfSeverity .none
  have hrun := @run_check (fun _ => .ok (ruleOfSeverity .none)) .ofNat [] _ _ rfl hconfig
    { kind := .property } "count".toList
  refine ⟨config, _, hconfig, hrun, ?_, hr.not_breaksReported hseverity _⟩
  rcases config.check_exitCode { kind := .property } "count".toList with ⟨hcode, -⟩ | ⟨-, hkept⟩
  · exact hcode
  · exact absurd ((hr.breaks_iff _).2 hcount) hkept

end Command

end Nomenclator
