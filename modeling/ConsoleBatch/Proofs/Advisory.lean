import ConsoleBatch.Proofs.Accounting

/-! Linting is advice: it has no part in what a batch does.

Two parsers with different linters go through the same lines. Their drafts may have different lint
warnings, different times, and different views of the deadline, but at every line the same work. -/

namespace ConsoleBatch.Batch

open Lint (Clock Context)
open Text (trimmed)

namespace Draft

def work (draft : Draft) : Account where
  actions := draft.actions.toList
  skipped := draft.skipped
  rejected := draft.warnings.toList.filter Warning.isInvalidSleep

variable {draft draft' : Draft}

theorem work_note (draft : Draft) (line : Line) (finding : Lint.Finding) :
    (draft.note line finding).work = draft.work := by
  unfold note
  cases finding.warning <;> simp [work, warn, Warning.isInvalidSleep]

theorem work_lint {linter : LinterConfig} {ctx : Context} {line : Line} {clock later : Clock}
    (onward : draft.lint linter ctx line clock = (some draft', later)) :
    draft'.work = draft.work := by
  cases late : draft.lintTimedOut with
  | true =>
    rw [lint_late late] at onward
    cases onward
    rfl
  | false =>
    rcases found : Lint.lintLine linter ctx line.text clock with ⟨_ | finding, after⟩
    · rw [lint_struck late found] at onward
      cases policy : linter.execution.onTimeout with
      | skipLinter =>
        rw [policy] at onward
        cases onward
        rfl
      | cancelExecution =>
        rw [policy] at onward
        cases onward
    · rw [lint_found late found] at onward
      cases onward
      exact work_note draft line finding

theorem work_take (same : draft.work = draft'.work) (security : Security) (line : Line) :
    (draft.take security line).work = (draft'.take security line).work := by
  obtain ⟨actions, skipped, rejected⟩ := Account.mk.inj same
  cases means : meaning security line.text <;>
    simp [work, take, act, warn, means, actions, skipped, rejected]

theorem work_finish (draft : Draft) (rules : LintRules) :
    (draft.finish rules).account = draft.work := by
  have none_at_end : ∀ quiet : Bool,
      (if quiet then [Warning.emptyFile] else []).filter Warning.isInvalidSleep = [] := by
    intro quiet
    cases quiet <;> rfl
  rw [finish_eq]
  simp only [Parsed.account, Parsed.invalidSleeps, work, List.filter_append, none_at_end,
    List.append_nil]

end Draft

/-- What holds of two drafts before a line holds behind it, whatever the two linters say. -/
theorem work_parseOnto {config config' : Config} (security : config.security = config'.security)
    {ctx ctx' : Context} {draft draft' last last' : Draft} (same : draft.work = draft'.work)
    {clock clock' : Clock} {number : Nat} {raws : List String}
    (parsed : parseOnto config ctx draft clock number raws = some last)
    (parsed' : parseOnto config' ctx' draft' clock' number raws = some last') :
    last.work = last'.work := by
  induction raws generalizing draft draft' clock clock' number with
  | nil =>
    cases parsed
    cases parsed'
    exact same
  | cons raw raws ih =>
    by_cases significant : Line.isSignificant ⟨number, trimmed raw⟩ = true
    · rw [parseOnto_significant significant] at parsed parsed'
      split at parsed
      · rename_i linted
        split at parsed'
        · rename_i linted'
          refine ih ?_ parsed parsed'
          rw [security]
          apply Draft.work_take
          rw [Draft.work_lint linted, Draft.work_lint linted', same]
        · cases parsed'
      · cases parsed
    · rw [parseOnto_idle significant] at parsed parsed'
      exact ih same parsed parsed'

/-- Two configurations that filter alike make the same steps of a file, drop as many commands and
reject the same pauses, however they lint, whatever commands are known, and whatever the clocks
show. -/
theorem linting_advisory (config config' : Config) (same : config.security = config'.security)
    (known known' : List String) (content : String) (clock clock' : Lint.Clock)
    (batch batch' : Parsed) (read : parse config known content clock = some batch)
    (read' : parse config' known' content clock' = some batch') :
    batch.actions = batch'.actions ∧ batch.skipped = batch'.skipped ∧
      batch.invalidSleeps = batch'.invalidSleeps := by
  obtain ⟨last, ran, rfl⟩ := Option.map_eq_some_iff.mp read
  obtain ⟨last', ran', rfl⟩ := Option.map_eq_some_iff.mp read'
  have accounts := work_parseOnto same rfl ran ran'
  rw [← Draft.work_finish last config.linter.rules, ← Draft.work_finish last' config'.linter.rules]
    at accounts
  exact Account.mk.inj accounts

def hurried : Config where
  linter.execution := { lintOrder := [.existence], maxLintTime := 0 }

theorem linting_advisory_hurried :
    ∃ batch batch', parse {} ["say"] mixed (.still 0) = some batch ∧
      parse hurried [] mixed (.still 7) = some batch' ∧
      batch.warnings ≠ batch'.warnings ∧ batch.actions = batch'.actions ∧
      batch.skipped = batch'.skipped ∧ batch.invalidSleeps = batch'.invalidSleeps := by
  have differ : ((parse {} ["say"] mixed (.still 0)).bind fun batch =>
      (parse hurried [] mixed (.still 7)).map fun batch' =>
        decide (batch.warnings ≠ batch'.warnings)) = some true := by
    decide +kernel
  obtain ⟨batch, read, second⟩ := Option.bind_eq_some_iff.mp differ
  obtain ⟨batch', read', warnings⟩ := Option.map_eq_some_iff.mp second
  exact ⟨batch, batch', read, read', of_decide_eq_true warnings,
    linting_advisory {} hurried rfl ["say"] [] mixed (.still 0) (.still 7) batch batch' read read'⟩

end ConsoleBatch.Batch
