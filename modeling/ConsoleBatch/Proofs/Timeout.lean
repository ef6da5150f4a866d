import ConsoleBatch.Proofs.Agreement
import Mathlib.Data.List.Basic

/-! What the lint deadline does to a batch.

Up to the line on which it comes, the lint warnings are those of a linting that has all the time it
needs; from that line on there are none. The policy decides over the whole batch and nothing else: a
batch that is not cancelled is the same under both policies. -/

namespace ConsoleBatch

def Config.allowing (config : Config) (millis : Nat) : Config :=
  { config with linter.execution.maxLintTime := millis }

def Config.handling (config : Config) (policy : TimeoutPolicy) : Config :=
  { config with linter.execution.onTimeout := policy }

namespace Batch

open Lint (Clock Context firstWarning?)
open Text

def Warning.standsBefore (number : Nat) (warning : Warning) : Bool :=
  warning.lineNumber?.any (· < number)

theorem number_le_of_mem {number : Nat} {raws : List String} {line : Line}
    (member : line ∈ numberedLines number raws) : number ≤ line.number := by
  induction raws generalizing number with
  | nil => cases member
  | cons raw raws ih =>
    rw [numberedLines_cons] at member
    split at member
    · rcases List.mem_cons.mp member with rfl | member
      · exact Nat.le_refl number
      · exact Nat.le_of_succ_le (ih member)
    · exact Nat.le_of_succ_le (ih member)

theorem ascending_numberedLines (number : Nat) (raws : List String) :
    (numberedLines number raws).Pairwise fun first second => first.number < second.number := by
  induction raws generalizing number with
  | nil => exact .nil
  | cons raw raws ih =>
    rw [numberedLines_cons]
    split
    · exact List.pairwise_cons.mpr ⟨fun _ => number_le_of_mem, ih (number + 1)⟩
    · exact ih (number + 1)

theorem complaint?_due (linter : LinterConfig) (execution : LintExecution) (ctx : Context)
    (due : Nat) : complaint? { linter with execution } { ctx with due } = complaint? linter ctx :=
  rfl

theorem filter_before {front rest : List Line} {line : Line}
    (ascending : (front ++ line :: rest).Pairwise fun one other => one.number < other.number) :
    ((front ++ line :: rest).filter fun other => other.number < line.number) = front := by
  obtain ⟨_, onward, across⟩ := List.pairwise_append.mp ascending
  have kept : (front.filter fun other => other.number < line.number) = front :=
    List.filter_eq_self.mpr fun other member =>
      decide_eq_true (across other member line List.mem_cons_self)
  have left_out : ((line :: rest).filter fun other => other.number < line.number) = [] := by
    apply List.filter_eq_nil_iff.mpr
    intro other member before
    have smaller := of_decide_eq_true before
    rcases List.mem_cons.mp member with rfl | member
    · exact Nat.lt_irrefl _ smaller
    · exact Nat.lt_asymm smaller ((List.pairwise_cons.mp onward).1 other member)
  rw [List.filter_append, kept, left_out, List.append_nil]

theorem filter_complaints (linter : LinterConfig) (ctx : Context) (number : Nat)
    (lines : List Line) :
    (lines.filterMap (complaint? linter ctx)).filter (Warning.standsBefore number) =
      (lines.filter fun line => line.number < number).filterMap (complaint? linter ctx) := by
  rw [List.filter_filterMap, List.filterMap_filter]
  apply List.filterMap_congr
  intro line _
  unfold complaint?
  cases firstWarning? linter ctx line.text with
  | none => simp
  | some message => simp [Option.filter, Warning.standsBefore, Warning.lineNumber?]

namespace Keeps

variable {linter : LinterConfig} {ctx : Context} {clock : Clock} {lines : List Line}
  {journal : Journal}

/-- Where the deadline comes, the lines in front of that one have their complaints, and no
others. -/
theorem complaints_struck {struck : StruckLine} (keeps : Keeps linter ctx clock lines journal)
    (bare : ∀ line ∈ lines, trimmed line.text = line.text)
    (ascending : lines.Pairwise fun first second => first.number < second.number)
    (ends : journal.struck = some struck) :
    struck.line ∈ lines ∧
      journal.complaints =
        (lines.filterMap (complaint? linter ctx)).filter
          (Warning.standsBefore struck.line.number) := by
  obtain ⟨rest, same, first⟩ := keeps.lines_eq
  rw [ends, Option.map_some, List.head?_eq_some_iff] at first
  obtain ⟨behind, rfl⟩ := first
  constructor
  · rw [same]
    exact List.mem_append_right _ List.mem_cons_self
  · rw [filter_complaints, keeps.complaints_linted bare]
    rw [same] at ascending ⊢
    rw [filter_before ascending]

end Keeps

/-- Where a deadline does not stop the batch, it cuts off the lint warnings in front of some line:
up to there they are those of a linting that has time enough, and from there on there are none. -/
theorem timeout_truncates (config : Config) (known : List String) (content : String) (clock : Clock)
    (skips : config.linter.execution.onTimeout = .skipLinter) (millis : Nat) (ideal : Clock)
    (never : ideal.Settled False (lintTime (config.allowing millis))) :
    ∃ batch full, parse config known content clock = some batch ∧
      parse (config.allowing millis) known content ideal = some full ∧
      full.lintTimedOut = false ∧
      (batch.lintTimedOut = false ∧ batch.lintWarnings = full.lintWarnings ∨
        batch.lintTimedOut = true ∧
          ∃ index raw, (contentLines content)[index]? = some raw ∧ Significant raw ∧
            batch.lintWarnings = full.lintWarnings.filter (Warning.standsBefore (index + 1))) := by
  obtain ⟨journal, kept⟩ := exists_journal config known content clock
  obtain ⟨journal', kept'⟩ := exists_journal (config.allowing millis) known content ideal
  obtain ⟨full, read', complete⟩ := parse_in_time (config.allowing millis) known content never
  have in_time : full.lintTimedOut = false := by
    rw [(describes_of_parse kept' read').timedOut, kept'.finished never]
    rfl
  obtain ⟨batch, read⟩ := exists_batch kept (.inr skips)
  have told := describes_of_parse kept read
  -- The two runs differ in their deadlines, and no check asks for those.
  have same_checks : complaint? (config.allowing millis).linter
      (lintContext (config.allowing millis) known ideal.now) =
        complaint? config.linter (lintContext config known clock.now) :=
    complaint?_due config.linter (config.allowing millis).linter.execution
      (lintContext config known clock.now)
      (lintContext (config.allowing millis) known ideal.now).due
  rw [same_checks] at complete
  refine ⟨batch, full, read, read', in_time, ?_⟩
  rw [told.timedOut, told.complaints, complete]
  cases ends : journal.struck with
  | none => exact .inl ⟨rfl, kept.all_complaints ends⟩
  | some struck =>
    obtain ⟨listed, complaints⟩ :=
      kept.complaints_struck (fun _ => trimmed_text) (ascending_numberedLines 1 _) ends
    obtain ⟨index, raw, here, significant, same⟩ := mem_numberedLines.mp listed
    rw [same] at complaints
    exact .inr ⟨rfl, index, raw, here, significant, complaints⟩

def pressed : Config where
  linter.execution := { lintOrder := [.existence], maxLintTime := 1 }

def threeCommands : String :=
  "one\n# two\nthree\nfour"

theorem timeout_truncates_pressed :
    ∃ batch full, parse pressed [] threeCommands (.steady 250000) = some batch ∧
      parse (pressed.allowing 1000) [] threeCommands (.still 0) = some full ∧
      full.lintWarnings.length = 3 ∧ full.lintTimedOut = false ∧
      batch.lintWarnings.length = 1 ∧ batch.lintTimedOut = true ∧
      ∃ index raw, (contentLines threeCommands)[index]? = some raw ∧ Significant raw ∧
        batch.lintWarnings = full.lintWarnings.filter (Warning.standsBefore (index + 1)) := by
  have cut : (parse pressed [] threeCommands (.steady 250000)).map (fun batch =>
      (batch.lintWarnings.length, batch.lintTimedOut)) = some (1, true) := by
    decide +kernel
  have whole : (parse (pressed.allowing 1000) [] threeCommands (.still 0)).map
      (fun full => full.lintWarnings.length) = some 3 := by
    decide +kernel
  obtain ⟨batch, full, read, read', in_time, ends⟩ := timeout_truncates pressed [] threeCommands
    (.steady 250000) rfl 1000 (.still 0) (settled_still _ 0 (by decide))
  rw [read] at cut
  rw [read'] at whole
  obtain ⟨warned, timedOut⟩ := Prod.mk.inj (Option.some.inj cut)
  refine ⟨batch, full, read, read', Option.some.inj whole, in_time, warned, timedOut, ?_⟩
  rcases ends with ⟨in_time, _⟩ | ⟨_, where_cut⟩
  · rw [timedOut] at in_time
    cases in_time
  · exact where_cut

section

variable {config : Config} {ctx : Context} {draft : Draft}

theorem lint_policies (early : draft.lintTimedOut = false) (line : Line) (clock : Clock) :
    (∃ next later, next.lintTimedOut = false ∧ ∀ policy,
      draft.lint (config.handling policy).linter ctx line clock = (some next, later)) ∨
    ∃ later, draft.lint (config.handling .skipLinter).linter ctx line clock =
        (some { draft with lintTimedOut := true }, later) ∧
      draft.lint (config.handling .cancelExecution).linter ctx line clock = (none, later) := by
  have same_line : ∀ policy, Lint.lintLine (config.handling policy).linter ctx line.text clock =
      Lint.lintLine config.linter ctx line.text clock := fun _ => rfl
  rcases found : Lint.lintLine config.linter ctx line.text clock with ⟨_ | finding, later⟩
  · have struck := fun policy => (same_line policy).trans found
    exact .inr ⟨later, Draft.lint_struck early (struck _), Draft.lint_struck early (struck _)⟩
  · refine .inl ⟨draft.note line finding, later, ?_, ?_⟩
    · rw [Draft.note_lintTimedOut, early]
    · intro policy
      exact Draft.lint_found early ((same_line policy).trans found)

/-- The two policies are in step until the deadline comes. From there on, the one goes on with a
draft that stays marked, and the other has none. -/
theorem parseOnto_policies (early : draft.lintTimedOut = false) (clock : Clock) (number : Nat)
    (raws : List String) :
    parseOnto (config.handling .cancelExecution) ctx draft clock number raws =
      (parseOnto (config.handling .skipLinter) ctx draft clock number raws).filter
        (! ·.lintTimedOut) := by
  induction raws generalizing draft clock number with
  | nil =>
    have kept : (some draft).filter (! ·.lintTimedOut) = some draft :=
      Option.filter_eq_some_iff.mpr ⟨rfl, by rw [early]; rfl⟩
    exact kept.symm
  | cons raw raws ih =>
    by_cases significant : Line.isSignificant ⟨number, trimmed raw⟩ = true
    · rw [parseOnto_significant significant, parseOnto_significant significant]
      rcases lint_policies early ⟨number, trimmed raw⟩ clock with
        ⟨next, later, still_early, both⟩ | ⟨later, goes_on, cancelled⟩
      · rw [both, both]
        exact ih ((Draft.take_lintTimedOut ..).trans still_early) later (number + 1)
      · -- The one loop ends here; the other one goes on to a draft that is marked.
        rw [goes_on, cancelled]
        dsimp only
        rw [parseOnto_late (Draft.take_lintTimedOut ..)]
        refine (Option.filter_eq_none_iff.mpr ?_).symm
        rintro _ ⟨⟩
        simp [Draft.grown, LintPass.stoppedBefore]
    · rw [parseOnto_idle significant, parseOnto_idle significant]
      exact ih early clock (number + 1)

theorem parse_cancelling (config : Config) (known : List String) (content : String)
    (clock : Clock) :
    parse (config.handling .cancelExecution) known content clock =
      (parse (config.handling .skipLinter) known content clock).filter (! ·.lintTimedOut) := by
  have drafts : parseOnto (config.handling .cancelExecution) (lintContext config known clock.now) {}
      clock.next 1 (contentLines content) = _ :=
    parseOnto_policies rfl clock.next 1 (contentLines content)
  have flag : (fun batch : Parsed => ! batch.lintTimedOut) ∘
      (Draft.finish · config.linter.rules) = fun draft => ! draft.lintTimedOut := by
    funext draft
    simp [finish_eq]
  calc
    parse (config.handling .cancelExecution) known content clock =
        (parseOnto (config.handling .cancelExecution) (lintContext config known clock.now) {}
          clock.next 1 (contentLines content)).map (Draft.finish · config.linter.rules) := rfl
    _ = _ := by
      rw [drafts, ← flag, ← Option.filter_map]
      rfl

end

/-- Under the one policy a batch always comes out, under the other the same one or none: none just
if the first is marked as cut short. So nothing that comes out under the second is partial, neither
in its steps nor in its lint warnings. -/
theorem policies_differ_in_verdict (config : Config) (known : List String) (content : String)
    (clock : Clock) :
    ∃ batch, parse (config.handling .skipLinter) known content clock = some batch ∧
      (parse (config.handling .cancelExecution) known content clock = none ↔
        batch.lintTimedOut = true) ∧
      (batch.lintTimedOut = false →
        parse (config.handling .cancelExecution) known content clock = some batch) ∧
      ∀ other, parse (config.handling .cancelExecution) known content clock = some other →
        other = batch ∧ other.lintTimedOut = false ∧
          Tally config.security 1 (contentLines content) other.account ∧
          other.lintWarnings = (numberedLines 1 (contentLines content)).filterMap
            (complaint? config.linter (lintContext config known clock.now)) := by
  obtain ⟨journal, kept⟩ := exists_journal (config.handling .skipLinter) known content clock
  obtain ⟨batch, skipping⟩ := exists_batch kept (.inr rfl)
  have told := describes_of_parse kept skipping
  have cancelling := parse_cancelling config known content clock
  rw [skipping] at cancelling
  refine ⟨batch, skipping, ?_, ?_, ?_⟩
  · rw [cancelling, Option.filter_eq_none_iff]
    simp
  · intro in_time
    rw [cancelling, Option.filter_eq_some_iff]
    exact ⟨rfl, by rw [in_time]; rfl⟩
  · intro other read
    rw [cancelling, Option.filter_eq_some_iff] at read
    obtain ⟨same, kept_on⟩ := read
    obtain rfl := Option.some.inj same
    have in_time : batch.lintTimedOut = false := by simpa using kept_on
    have tally : Tally (config.handling .skipLinter).security 1 (contentLines content)
        batch.account := tally_parse skipping
    refine ⟨rfl, in_time, tally, ?_⟩
    rw [told.complaints]
    exact kept.all_complaints (told.finished in_time)

theorem policies_differ_in_verdict_pressed :
    parse (pressed.handling .cancelExecution) [] threeCommands (.steady 250000) = none ∧
      ∃ batch, parse (pressed.handling .skipLinter) [] threeCommands (.steady 250000) =
          some batch ∧ batch.lintTimedOut = true := by
  have cut : (parse (pressed.handling .skipLinter) [] threeCommands (.steady 250000)).map
      Parsed.lintTimedOut = some true := by
    decide +kernel
  obtain ⟨batch, read, cancelled, _⟩ :=
    policies_differ_in_verdict pressed [] threeCommands (.steady 250000)
  rw [read] at cut
  have timedOut : batch.lintTimedOut = true := Option.some.inj cut
  exact ⟨cancelled.mpr timedOut, batch, read, timedOut⟩

end Batch

end ConsoleBatch
