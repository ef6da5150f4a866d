import ConsoleBatch.Batch.Parsed
import ConsoleBatch.Proofs.Merging

/-! Parsing as two passes, one that lints all lines and one that understands them.

The parser does both for one line before it takes up the next. Here the draft of a batch is shown to
grow by what the two passes say about the lines that are still to come. -/

namespace ConsoleBatch.Batch

open Lint (Clock Context Timings)
open Text (trimmed)

def numberedLines (number : Nat) (raws : List String) : List Line :=
  ((raws.zipIdx number).map fun (raw, number) => { number, text := trimmed raw : Line }).filter
    Line.isSignificant

theorem numberedLines_significant {number : Nat} {raw : String}
    (significant : Line.isSignificant ⟨number, trimmed raw⟩ = true) (raws : List String) :
    numberedLines number (raw :: raws) =
      ⟨number, trimmed raw⟩ :: numberedLines (number + 1) raws := by
  unfold numberedLines
  rw [List.zipIdx_cons, List.map_cons, List.filter_cons_of_pos significant]

theorem numberedLines_idle {number : Nat} {raw : String}
    (idle : ¬ Line.isSignificant ⟨number, trimmed raw⟩ = true) (raws : List String) :
    numberedLines number (raw :: raws) = numberedLines (number + 1) raws := by
  unfold numberedLines
  rw [List.zipIdx_cons, List.map_cons, List.filter_cons_of_neg idle]

def action? (security : Security) (line : Line) : Option Action :=
  match meaning security line.text with
  | .pause seconds => some (.pause seconds)
  | .command => some (.command line.text)
  | .badSleep _ | .dropped => none

def isSkipped (security : Security) (line : Line) : Bool :=
  match meaning security line.text with
  | .dropped => true
  | _ => false

def badSleep? (security : Security) (line : Line) : Option SleepError :=
  match meaning security line.text with
  | .badSleep reason => some reason
  | _ => none

structure LintPass where
  warnings : List (Option String)
  timings : Timings
  timedOut : Bool
  deriving DecidableEq

namespace LintPass

def done : LintPass where
  warnings := []
  timings := .empty
  timedOut := false

/-- The checks that ran on the line on which the deadline comes do not count. -/
def stoppedBefore (lines : List Line) : LintPass where
  warnings := lines.map fun _ => none
  timings := .empty
  timedOut := true

def after (pass : LintPass) (finding : Lint.Finding) : LintPass where
  warnings := finding.warning :: pass.warnings
  timings := finding.timings.merge pass.timings
  timedOut := pass.timedOut

end LintPass

def lintLines (linter : LinterConfig) (ctx : Context) (clock : Clock) :
    List Line → LintPass × Clock
  | [] => (.done, clock)
  | line :: rest =>
    match Lint.lintLine linter ctx line.text clock with
    | (none, clock) => (.stoppedBefore (line :: rest), clock)
    | (some finding, clock) =>
      let (pass, clock) := lintLines linter ctx clock rest
      (pass.after finding, clock)

def lineWarnings (security : Security) (line : Line) (lint : Option String) : List Warning :=
  (lint.map (.lint line.number line.text)).toList ++
    ((badSleep? security line).map (.invalidSleep line.number line.text)).toList

def assemble (config : Config) (lines : List Line) (pass : LintPass) : Parsed :=
  let actions := lines.filterMap (action? config.security)
  let warnings := (List.zipWith (lineWarnings config.security) lines pass.warnings).flatten
  let atEnd : List Warning :=
    if actions.isEmpty && config.linter.rules.warnEmptyFile then [.emptyFile] else []
  { actions
    skipped := lines.countP (isSkipped config.security)
    warnings := warnings ++ atEnd
    timings := pass.timings
    lintTimedOut := pass.timedOut }

def lintPass (config : Config) (known : List String) (content : String) (clock : Clock) :
    LintPass :=
  (lintLines config.linter (lintContext config known clock.now) clock.next
    (numberedLines 1 (contentLines content))).1

namespace Draft

/-- The draft with what the two passes say about more lines. -/
def grown (draft : Draft) (security : Security) (lines : List Line) (pass : LintPass) : Draft where
  actions := draft.actions ++ (lines.filterMap (action? security)).toArray
  skipped := draft.skipped + lines.countP (isSkipped security)
  warnings := draft.warnings ++
    (List.zipWith (lineWarnings security) lines pass.warnings).flatten.toArray
  timings := draft.timings.merge pass.timings
  lintTimedOut := draft.lintTimedOut || pass.timedOut

variable (draft : Draft) (security : Security) (line : Line) (rest : List Line) (pass : LintPass)

theorem grown_take :
    (draft.take security line).grown security rest pass =
      draft.grown security (line :: rest) { pass with warnings := none :: pass.warnings } := by
  cases means : meaning security line.text <;>
    simp [grown, take, act, warn, lineWarnings, action?, isSkipped, badSleep?, means,
      Nat.add_comm 1, Nat.add_assoc]

theorem grown_note (finding : Lint.Finding) :
    (draft.note line finding).grown security (line :: rest)
        { pass with warnings := none :: pass.warnings } =
      draft.grown security (line :: rest) (pass.after finding) := by
  have sums := Timings.merge_assoc draft.timings finding.timings pass.timings
  cases warning : finding.warning <;>
    simp [grown, note, warn, LintPass.after, lineWarnings, warning, sums]

theorem grown_stopped (lines : List Line) :
    ({ draft with lintTimedOut := true } : Draft).grown security lines (.stoppedBefore lines) =
      draft.grown security lines (.stoppedBefore lines) := by
  simp [grown, LintPass.stoppedBefore]

theorem grown_nil (same : (draft.lintTimedOut || pass.timedOut) = draft.lintTimedOut)
    (untimed : pass.timings = .empty) : draft.grown security [] pass = draft := by
  simp [grown, untimed, Timings.merge_empty, same]

theorem take_lintTimedOut : (draft.take security line).lintTimedOut = draft.lintTimedOut := by
  unfold take
  split <;> rfl

theorem note_lintTimedOut (finding : Lint.Finding) :
    (draft.note line finding).lintTimedOut = draft.lintTimedOut := by
  unfold note
  cases finding.warning <;> rfl

variable {draft line} {linter : LinterConfig} {ctx : Context} {clock later : Clock}

theorem lint_late (late : draft.lintTimedOut = true) :
    draft.lint linter ctx line clock = (some draft, clock) :=
  if_pos late

theorem lint_found {finding : Lint.Finding} (early : draft.lintTimedOut = false)
    (found : Lint.lintLine linter ctx line.text clock = (some finding, later)) :
    draft.lint linter ctx line clock = (some (draft.note line finding), later) := by
  rw [lint, if_neg (by simp [early]), found]

theorem lint_struck (early : draft.lintTimedOut = false)
    (struck : Lint.lintLine linter ctx line.text clock = (none, later)) :
    draft.lint linter ctx line clock =
      match linter.execution.onTimeout with
      | .skipLinter => (some { draft with lintTimedOut := true }, later)
      | .cancelExecution => (none, later) := by
  cases policy : linter.execution.onTimeout <;> simp [lint, early, struck, policy]

end Draft

variable {config : Config} {ctx : Context} {draft : Draft} {number : Nat} {raw : String}

theorem parseOnto_idle (idle : ¬ Line.isSignificant ⟨number, trimmed raw⟩ = true) (clock : Clock)
    (raws : List String) :
    parseOnto config ctx draft clock number (raw :: raws) =
      parseOnto config ctx draft clock (number + 1) raws := by
  rw [parseOnto, if_neg idle]

theorem parseOnto_significant (significant : Line.isSignificant ⟨number, trimmed raw⟩ = true)
    (clock : Clock) (raws : List String) :
    parseOnto config ctx draft clock number (raw :: raws) =
      match draft.lint config.linter ctx ⟨number, trimmed raw⟩ clock with
      | (some draft, clock) =>
        parseOnto config ctx (draft.take config.security ⟨number, trimmed raw⟩) clock (number + 1)
          raws
      | (none, _) => none :=
  if_pos significant

/-- Once the deadline has come, a draft grows by all lines that are still to come. -/
theorem parseOnto_late (late : draft.lintTimedOut = true) (clock : Clock) (number : Nat)
    (raws : List String) :
    parseOnto config ctx draft clock number raws =
      some (draft.grown config.security (numberedLines number raws)
        (.stoppedBefore (numberedLines number raws))) := by
  induction raws generalizing draft number with
  | nil =>
    have unchanged := draft.grown_nil config.security (.stoppedBefore []) (by rw [late]; rfl) rfl
    exact congrArg some unchanged.symm
  | cons raw raws ih =>
    by_cases significant : Line.isSignificant ⟨number, trimmed raw⟩ = true
    · rw [parseOnto_significant significant, Draft.lint_late late,
        numberedLines_significant significant]
      dsimp only
      rw [ih ((Draft.take_lintTimedOut ..).trans late), Draft.grown_take]
      rfl
    · rw [parseOnto_idle significant, numberedLines_idle significant]
      exact ih late (number + 1)

theorem parseOnto_eq (early : draft.lintTimedOut = false) (clock : Clock) (number : Nat)
    (raws : List String) :
    parseOnto config ctx draft clock number raws =
      let lines := numberedLines number raws
      let pass := (lintLines config.linter ctx clock lines).1
      if pass.timedOut && config.linter.execution.onTimeout = .cancelExecution then none
      else some (draft.grown config.security lines pass) := by
  -- Each line hands a draft and a clock on, so the lines behind it start from any of them.
  induction raws generalizing draft clock number with
  | nil =>
    have unchanged := draft.grown_nil config.security .done (by rw [early]; rfl) rfl
    exact congrArg some unchanged.symm
  | cons raw raws ih =>
    by_cases significant : Line.isSignificant ⟨number, trimmed raw⟩ = true
    · rw [parseOnto_significant significant, numberedLines_significant significant]
      generalize Line.mk number (trimmed raw) = line
      dsimp only
      rw [lintLines]
      rcases found : Lint.lintLine config.linter ctx line.text clock with ⟨_ | finding, later⟩
      · -- The deadline comes on this line, and linting has no part in the rest of the loop.
        rw [Draft.lint_struck early found]
        cases config.linter.execution.onTimeout with
        | cancelExecution => rfl
        | skipLinter =>
          dsimp only
          rw [parseOnto_late (Draft.take_lintTimedOut ..), Draft.grown_take]
          exact congrArg some (draft.grown_stopped config.security (line :: numberedLines _ raws))
      · have still_early :
            ((draft.note line finding).take config.security line).lintTimedOut = false := by
          rw [Draft.take_lintTimedOut, Draft.note_lintTimedOut, early]
        rw [Draft.lint_found early found]
        dsimp only
        rw [ih still_early]
        dsimp only
        rw [Draft.grown_take, Draft.grown_note]
        rfl
    · rw [parseOnto_idle significant, numberedLines_idle significant]
      exact ih early clock (number + 1)

theorem finish_eq (draft : Draft) (rules : LintRules) :
    draft.finish rules =
      { actions := draft.actions.toList
        skipped := draft.skipped
        warnings := draft.warnings.toList ++
          if draft.actions.isEmpty && rules.warnEmptyFile then [.emptyFile] else []
        timings := draft.timings
        lintTimedOut := draft.lintTimedOut } := by
  unfold Draft.finish
  cases draft.actions.isEmpty && rules.warnEmptyFile <;> simp [Draft.warn]

theorem finish_grown (config : Config) (lines : List Line) (pass : LintPass) :
    (({} : Draft).grown config.security lines pass).finish config.linter.rules =
      assemble config lines pass := by
  rw [finish_eq]
  simp [Draft.grown, assemble, Timings.empty_merge]

/-- The parser comes to what the two passes come to. -/
theorem parse_eq (config : Config) (known : List String) (content : String) (clock : Clock) :
    parse config known content clock =
      if (lintPass config known content clock).timedOut &&
          config.linter.execution.onTimeout = .cancelExecution then none
      else some (assemble config (numberedLines 1 (contentLines content))
        (lintPass config known content clock)) := by
  rw [parse, parseLines, parseOnto_eq rfl]
  unfold lintPass
  dsimp only
  split
  · rfl
  · exact congrArg some (finish_grown config _ _)

end ConsoleBatch.Batch
