import ConsoleBatch.Proofs.FirstWarning
import Mathlib.Data.List.Basic

/-! What happens while lines are linted, one look at the clock after the other.

The rules say which checks run on a line, for how long, and how the line ends; a journal holds this
for all lines, up to the one on which the deadline comes. Every linting has a journal, and the batch
that comes of it can be read off there: its warnings, its times, and whether linting came to its
end. -/

namespace ConsoleBatch

namespace Lint

structure CheckRun where
  check : Check
  nanos : Nat
  deriving DecidableEq

inductive Ending where
  | linted (warning : Option String)
  | struck
  deriving DecidableEq

/-- The checks of a line run one after the other. The clock is looked at before each of them, and an
enabled one runs between two more looks. -/
inductive Checking (rules : LintRules) (ctx : Context) (kind : LineKind) (line : String) :
    Clock → List Check → List CheckRun → Ending → Clock → Prop
  | clean (clock : Clock) : Checking rules ctx kind line clock [] [] (.linted none) clock
  | struck {clock : Clock} {check : Check} {rest : List Check} (late : ctx.due ≤ clock.now) :
      Checking rules ctx kind line clock (check :: rest) [] .struck clock.next
  | disabled {clock after : Clock} {check : Check} {rest : List Check} {runs : List CheckRun}
      {ending : Ending} (early : clock.now < ctx.due) (off : rules.enables check = false)
      (onward : Checking rules ctx kind line clock.next rest runs ending after) :
      Checking rules ctx kind line clock (check :: rest) runs ending after
  | warned {clock : Clock} {check : Check} {rest : List Check} {warning : String}
      (early : clock.now < ctx.due) (enabled : rules.enables check = true)
      (found : warning? rules ctx kind line check = some warning) :
      Checking rules ctx kind line clock (check :: rest) [⟨check, clock.elapsed 1⟩]
        (.linted (some warning)) clock.next.next.next
  | silent {clock after : Clock} {check : Check} {rest : List Check} {runs : List CheckRun}
      {ending : Ending} (early : clock.now < ctx.due) (enabled : rules.enables check = true)
      (found : warning? rules ctx kind line check = none)
      (onward : Checking rules ctx kind line clock.next.next.next rest runs ending after) :
      Checking rules ctx kind line clock (check :: rest) (⟨check, clock.elapsed 1⟩ :: runs) ending
        after

def Timings.recordAll (timings : Timings) (runs : List CheckRun) : Timings :=
  runs.foldl (fun timings run => timings.record run.check run.nanos) timings

def Ending.finding? (timings : Timings) : Ending → Option Finding
  | linted warning => some { warning, timings }
  | struck => none

section

variable {rules : LintRules} {ctx : Context} {kind : LineKind} {line : String} {clock after : Clock}
  {checks : List Check} {runs : List CheckRun} {ending : Ending}

theorem exists_checking (rules : LintRules) (ctx : Context) (kind : LineKind) (line : String)
    (clock : Clock) (checks : List Check) :
    ∃ runs ending after, Checking rules ctx kind line clock checks runs ending after := by
  induction checks generalizing clock with
  | nil => exact ⟨_, _, _, .clean clock⟩
  | cons check rest ih =>
    rcases Nat.lt_or_ge (clock.now) ctx.due with early | late
    · cases enabled : rules.enables check with
      | false =>
        obtain ⟨_, _, _, onward⟩ := ih clock.next
        exact ⟨_, _, _, .disabled early enabled onward⟩
      | true =>
        cases found : warning? rules ctx kind line check with
        | some warning => exact ⟨_, _, _, .warned early enabled found⟩
        | none =>
          obtain ⟨_, _, _, onward⟩ := ih clock.next.next.next
          exact ⟨_, _, _, .silent early enabled found onward⟩
    · exact ⟨_, _, _, .struck late⟩

namespace Checking

theorem runChecks_eq (course : Checking rules ctx kind line clock checks runs ending after)
    (timings : Timings) :
    runChecks rules ctx kind line timings clock checks =
      (ending.finding? (timings.recordAll runs), after) := by
  induction course generalizing timings with
  | clean clock => rfl
  | struck late =>
    rw [runChecks, if_pos late]
    rfl
  | disabled early off _ ih =>
    rw [runChecks, if_neg (Nat.not_le.mpr early), off, if_neg (by decide)]
    exact ih timings
  | warned early enabled found =>
    rw [runChecks, if_neg (Nat.not_le.mpr early), if_pos enabled, found]
    rfl
  | silent early enabled found _ ih =>
    rw [runChecks, if_neg (Nat.not_le.mpr early), if_pos enabled, found]
    exact ih _

theorem warning_eq {warning : Option String}
    (course : Checking rules ctx kind line clock checks runs ending after)
    (ends : ending = .linted warning) :
    warning = (checks.filter rules.enables).findSome? (warning? rules ctx kind line) := by
  induction course with
  | clean clock =>
    cases ends
    rfl
  | struck late => cases ends
  | disabled early off _ ih =>
    rw [List.filter_cons_of_neg (by rw [off]; decide)]
    exact ih ends
  | warned early enabled found =>
    cases ends
    rw [List.filter_cons_of_pos enabled, List.findSome?_cons, found]
  | silent early enabled found _ ih =>
    rw [List.filter_cons_of_pos enabled, List.findSome?_cons, found]
    exact ih ends

theorem late (course : Checking rules ctx kind line clock checks runs .struck after) :
    ¬ clock.Early ctx.due := by
  generalize ends : Ending.struck = ending at course
  induction course with
  | clean | warned => cases ends
  | struck late =>
    intro early
    exact Nat.not_le.mpr (early 0) late
  | disabled _ _ _ ih => exact fun early => ih ends early.next
  | silent _ _ _ _ ih => exact fun early => ih ends early.next.next.next

theorem early_after (course : Checking rules ctx kind line clock checks runs ending after)
    (early : clock.Early ctx.due) : after.Early ctx.due := by
  induction course with
  | clean => exact early
  | struck => exact early.next
  | disabled _ _ _ ih => exact ih early.next
  | warned => exact early.next.next.next
  | silent _ _ _ _ ih => exact ih early.next.next.next

end Checking

end

/-- A line is linted. Nothing runs on an empty line or a comment, and nothing at all if linting is
switched off. -/
inductive Linting (linter : LinterConfig) (ctx : Context) (line : String) :
    Clock → List CheckRun → Ending → Clock → Prop
  | idle {clock : Clock} (nothing : linter.enabled = false ∨ lineKind? (Text.trimmed line) = none) :
      Linting linter ctx line clock [] (.linted none) clock
  | checked {clock after : Clock} {kind : LineKind} {runs : List CheckRun} {ending : Ending}
      (enabled : linter.enabled = true) (about : lineKind? (Text.trimmed line) = some kind)
      (course : Checking linter.rules ctx kind (Text.trimmed line) clock ctx.order runs ending
        after) :
      Linting linter ctx line clock runs ending after

section

variable {linter : LinterConfig} {ctx : Context} {line : String} {clock after : Clock}
  {runs : List CheckRun} {ending : Ending}

theorem exists_linting (linter : LinterConfig) (ctx : Context) (line : String) (clock : Clock) :
    ∃ runs ending after, Linting linter ctx line clock runs ending after := by
  cases enabled : linter.enabled with
  | false => exact ⟨_, _, _, .idle (.inl enabled)⟩
  | true =>
    cases about : lineKind? (Text.trimmed line) with
    | none => exact ⟨_, _, _, .idle (.inr about)⟩
    | some kind =>
      obtain ⟨_, _, _, course⟩ :=
        exists_checking linter.rules ctx kind (Text.trimmed line) clock ctx.order
      exact ⟨_, _, _, .checked enabled about course⟩

namespace Linting

theorem lintLine_eq (course : Linting linter ctx line clock runs ending after) :
    lintLine linter ctx line clock = (ending.finding? (Timings.empty.recordAll runs), after) := by
  unfold lintLine
  dsimp only
  cases course with
  | idle nothing =>
    rcases nothing with off | meaningless
    · cases lineKind? (Text.trimmed line) with
      | none => rfl
      | some kind =>
        simp only [off]
        rfl
    · rw [meaningless]
      rfl
  | checked enabled about course =>
    simp only [about, enabled, if_true]
    exact course.runChecks_eq .empty

theorem warning_eq {warning : Option String}
    (course : Linting linter ctx line clock runs (.linted warning) after) :
    warning = firstWarning? linter ctx (Text.trimmed line) := by
  unfold firstWarning?
  cases course with
  | idle nothing =>
    rcases nothing with off | meaningless
    · cases lineKind? (Text.trimmed line) with
      | none => rfl
      | some kind => simp [off]
    · rw [meaningless]
  | checked enabled about course =>
    simp only [about, enabled, if_true]
    exact course.warning_eq rfl

theorem late (course : Linting linter ctx line clock runs .struck after) :
    ¬ clock.Early ctx.due := by
  cases course with
  | checked _ _ course => exact course.late

theorem early_after (course : Linting linter ctx line clock runs ending after)
    (early : clock.Early ctx.due) : after.Early ctx.due := by
  cases course with
  | idle => exact early
  | checked _ _ course => exact course.early_after early

end Linting

end

/-- The time that the runs of a check took together; nothing if it did not run. -/
def spent (check : Check) (runs : List CheckRun) : Option Nat :=
  let own := runs.filter fun run => run.check = check
  if own.isEmpty then none else some (own.foldr (fun run total => run.nanos + total) 0)

theorem spent_nil (check : Check) : spent check [] = none := rfl

theorem spent_cons (check : Check) (run : CheckRun) (runs : List CheckRun) :
    spent check (run :: runs) =
      Option.merge (· + ·) (if run.check = check then some run.nanos else none)
        (spent check runs) := by
  by_cases own : run.check = check
  · cases others : runs.filter fun run => run.check = check <;> simp [spent, own, others]
  · simp [spent, own]

theorem spent_append (check : Check) (first second : List CheckRun) :
    spent check (first ++ second) =
      Option.merge (· + ·) (spent check first) (spent check second) := by
  induction first with
  | nil => rw [List.nil_append, spent_nil, Option.merge_none_left]
  | cons run rest ih => rw [List.cons_append, spent_cons, spent_cons, ih, merge_add_assoc]

theorem isSome_spent {check : Check} {runs : List CheckRun} :
    (spent check runs).isSome = true ↔ ∃ run ∈ runs, run.check = check := by
  unfold spent
  cases own : runs.filter fun run => run.check = check with
  | nil =>
    have none_own := List.filter_eq_nil_iff.mp own
    simp only [decide_eq_true_eq] at none_own
    simpa using none_own
  | cons run rest =>
    have member : run ∈ runs.filter fun run => run.check = check := by
      rw [own]
      exact List.mem_cons_self
    obtain ⟨listed, same⟩ := List.mem_filter.mp member
    exact iff_of_true rfl ⟨run, listed, of_decide_eq_true same⟩

theorem get?_recordAll (timings : Timings) (runs : List CheckRun) (check : Check) :
    (timings.recordAll runs).get? check =
      Option.merge (· + ·) (timings.get? check) (spent check runs) := by
  induction runs generalizing timings with
  | nil => rw [spent_nil, Option.merge_none_right]; rfl
  | cons run rest ih =>
    change ((timings.record run.check run.nanos).recordAll rest).get? check = _
    rw [ih, spent_cons, Timings.record, Timings.get?_merge, Timings.get?_single, merge_add_assoc]

theorem get?_recordAll_empty (runs : List CheckRun) (check : Check) :
    (Timings.empty.recordAll runs).get? check = spent check runs := by
  rw [get?_recordAll, Timings.get?_empty, Option.merge_none_left]

end Lint

namespace Batch

open Lint (Check CheckRun Clock Context Linting firstWarning? spent)
open Text

structure LintedLine where
  line : Line
  runs : List CheckRun
  warning : Option String
  deriving DecidableEq

structure StruckLine where
  line : Line
  runs : List CheckRun
  deriving DecidableEq

structure Journal where
  linted : List LintedLine
  struck : Option StruckLine
  deriving DecidableEq

namespace Journal

def entered (journal : Journal) (entry : LintedLine) : Journal :=
  { journal with linted := entry :: journal.linted }

def lintedRuns (journal : Journal) : List CheckRun :=
  journal.linted.flatMap LintedLine.runs

theorem lintedRuns_entered (journal : Journal) (entry : LintedLine) :
    (journal.entered entry).lintedRuns = entry.runs ++ journal.lintedRuns :=
  List.flatMap_cons

def struckRuns (journal : Journal) : List CheckRun :=
  journal.struck.elim [] StruckLine.runs

def runs (journal : Journal) : List CheckRun :=
  journal.lintedRuns ++ journal.struckRuns

def complaints (journal : Journal) : List Warning :=
  journal.linted.filterMap fun entry =>
    entry.warning.map (.lint entry.line.number entry.line.text)

end Journal

/-- Lines are linted one after the other, up to the one on which the deadline comes. -/
inductive Keeps (linter : LinterConfig) (ctx : Context) : Clock → List Line → Journal → Prop
  | done (clock : Clock) : Keeps linter ctx clock [] ⟨[], none⟩
  | linted {clock after : Clock} {line : Line} {rest : List Line} {runs : List CheckRun}
      {warning : Option String} {journal : Journal}
      (here : Linting linter ctx line.text clock runs (.linted warning) after)
      (onward : Keeps linter ctx after rest journal) :
      Keeps linter ctx clock (line :: rest) (journal.entered ⟨line, runs, warning⟩)
  | struck {clock after : Clock} {line : Line} {rest : List Line} {runs : List CheckRun}
      (here : Linting linter ctx line.text clock runs .struck after) :
      Keeps linter ctx clock (line :: rest) ⟨[], some ⟨line, runs⟩⟩

theorem exists_keeps (linter : LinterConfig) (ctx : Context) (clock : Clock) (lines : List Line) :
    ∃ journal, Keeps linter ctx clock lines journal := by
  induction lines generalizing clock with
  | nil => exact ⟨_, .done clock⟩
  | cons line rest ih =>
    obtain ⟨runs, ending, after, here⟩ := Lint.exists_linting linter ctx line.text clock
    cases ending with
    | linted warning =>
      obtain ⟨_, onward⟩ := ih after
      exact ⟨_, .linted here onward⟩
    | struck => exact ⟨_, .struck here⟩

namespace Keeps

variable {linter : LinterConfig} {ctx : Context} {clock : Clock} {lines : List Line}
  {journal : Journal}

theorem timedOut_eq (keeps : Keeps linter ctx clock lines journal) :
    (lintLines linter ctx clock lines).1.timedOut = journal.struck.isSome := by
  induction keeps with
  | done => rfl
  | linted here _ ih =>
    rw [lintLines, here.lintLine_eq]
    exact ih
  | struck here =>
    rw [lintLines, here.lintLine_eq]
    rfl

theorem get?_timings (keeps : Keeps linter ctx clock lines journal) (check : Check) :
    (lintLines linter ctx clock lines).1.timings.get? check = spent check journal.lintedRuns := by
  induction keeps with
  | done => cases check <;> rfl
  | linted here _ ih =>
    rw [Journal.lintedRuns_entered, Lint.spent_append, ← ih, ← Lint.get?_recordAll_empty, lintLines,
      here.lintLine_eq]
    exact Lint.Timings.get?_merge _ _ check
  | struck here =>
    rw [lintLines, here.lintLine_eq]
    cases check <;> rfl

theorem complaints_eq (keeps : Keeps linter ctx clock lines journal) (security : Security) :
    (List.zipWith (lineWarnings security) lines
        (lintLines linter ctx clock lines).1.warnings).flatten.filter Warning.isLint =
      journal.complaints := by
  induction keeps with
  | done => rfl
  | @linted _ _ line _ _ warning journal here _ ih =>
    rw [lintLines, here.lintLine_eq]
    change (lineWarnings security line warning ++ _).filter Warning.isLint = _
    rw [List.filter_append, complaint_lineWarnings, ih]
    cases warning <;> rfl
  | @struck _ _ line rest _ here =>
    rw [lintLines, here.lintLine_eq]
    exact complaints_silent security (line :: rest)

/-- The lines of the journal come first, and linting stops at the one behind them. -/
theorem lines_eq (keeps : Keeps linter ctx clock lines journal) :
    ∃ rest, lines = journal.linted.map LintedLine.line ++ rest ∧
      rest.head? = journal.struck.map StruckLine.line := by
  induction keeps with
  | done => exact ⟨[], rfl, rfl⟩
  | linted _ _ ih =>
    obtain ⟨rest, same, first⟩ := ih
    exact ⟨rest, congrArg _ same, first⟩
  | struck => exact ⟨_, rfl, rfl⟩

theorem warning_eq (keeps : Keeps linter ctx clock lines journal) {entry : LintedLine}
    (member : entry ∈ journal.linted) :
    entry.warning = firstWarning? linter ctx (trimmed entry.line.text) := by
  induction keeps with
  | done | struck => cases member
  | linted here _ ih =>
    rcases List.mem_cons.mp member with rfl | member
    · exact here.warning_eq
    · exact ih member

theorem struck_eq_none (keeps : Keeps linter ctx clock lines journal)
    (early : clock.Early ctx.due) : journal.struck = none := by
  induction keeps with
  | done => rfl
  | linted here _ ih => exact ih (here.early_after early)
  | struck here => exact absurd early here.late

/-- The lines that were linted have the complaints that they have with all the time in the world. -/
theorem complaints_linted (keeps : Keeps linter ctx clock lines journal)
    (bare : ∀ line ∈ lines, trimmed line.text = line.text) :
    journal.complaints =
      (journal.linted.map LintedLine.line).filterMap (complaint? linter ctx) := by
  obtain ⟨rest, same, _⟩ := keeps.lines_eq
  unfold Journal.complaints
  rw [List.filterMap_map]
  apply List.filterMap_congr
  intro entry member
  have listed : entry.line ∈ lines := by
    rw [same]
    exact List.mem_append_left _ (List.mem_map_of_mem member)
  rw [keeps.warning_eq member, bare entry.line listed]
  rfl

theorem complaints_finished (keeps : Keeps linter ctx clock lines journal)
    (bare : ∀ line ∈ lines, trimmed line.text = line.text) (finished : journal.struck = none) :
    journal.complaints = lines.filterMap (complaint? linter ctx) := by
  obtain ⟨rest, same, first⟩ := keeps.lines_eq
  rw [finished, Option.map_none, List.head?_eq_none_iff] at first
  rw [keeps.complaints_linted bare, same, first, List.append_nil]

end Keeps

def Journal.Of (config : Config) (known : List String) (content : String) (clock : Clock)
    (journal : Journal) : Prop :=
  Keeps config.linter (lintContext config known clock.now) clock.next
    (numberedLines 1 (contentLines content)) journal

/-- What a journal says of its batch. -/
structure Journal.Describes (journal : Journal) (batch : Parsed) : Prop where
  timedOut : batch.lintTimedOut = journal.struck.isSome
  complaints : batch.lintWarnings = journal.complaints
  times : ∀ check, batch.timings.get? check = spent check journal.lintedRuns

theorem Journal.Describes.finished {journal : Journal} {batch : Parsed}
    (told : journal.Describes batch) (in_time : batch.lintTimedOut = false) :
    journal.struck = none := by
  rw [told.timedOut, Option.isSome_eq_false_iff] at in_time
  exact Option.isNone_iff_eq_none.mp in_time

variable {config : Config} {known : List String} {content : String} {clock : Clock}
  {journal : Journal}

theorem exists_journal (config : Config) (known : List String) (content : String) (clock : Clock) :
    ∃ journal, Journal.Of config known content clock journal :=
  exists_keeps _ _ _ _

/-- A batch is cancelled if the deadline comes on one of its lines and the policy says so. -/
theorem parse_eq_none_iff (kept : Journal.Of config known content clock journal) :
    parse config known content clock = none ↔
      journal.struck.isSome = true ∧ config.linter.execution.onTimeout = .cancelExecution := by
  have timedOut : (lintPass config known content clock).timedOut = journal.struck.isSome :=
    kept.timedOut_eq
  rw [parse_eq, timedOut]
  simp

theorem exists_batch (kept : Journal.Of config known content clock journal)
    (going : journal.struck = none ∨ config.linter.execution.onTimeout = .skipLinter) :
    ∃ batch, parse config known content clock = some batch := by
  apply Option.ne_none_iff_exists'.mp
  rw [Ne, parse_eq_none_iff kept]
  rintro ⟨struck, cancels⟩
  rcases going with finished | skips
  · rw [finished] at struck
    cases struck
  · rw [skips] at cancels
    cases cancels

theorem describes_assemble (kept : Journal.Of config known content clock journal) :
    journal.Describes (assemble config (numberedLines 1 (contentLines content))
      (lintPass config known content clock)) where
  timedOut := kept.timedOut_eq
  complaints := by
    rw [lintWarnings_lineWarnings]
    exact kept.complaints_eq config.security
  times := kept.get?_timings

theorem describes_of_parse (kept : Journal.Of config known content clock journal) {batch : Parsed}
    (read : parse config known content clock = some batch) : journal.Describes batch := by
  rw [parse_eq] at read
  split at read
  · cases read
  · obtain rfl := Option.some.inj read
    exact describes_assemble kept

theorem Journal.Of.finished (kept : Journal.Of config known content clock journal)
    (settled : clock.Settled False (lintTime config)) : journal.struck = none :=
  kept.struck_eq_none (Clock.early_of_settled settled)

theorem Journal.Of.all_complaints (kept : Journal.Of config known content clock journal)
    (finished : journal.struck = none) :
    journal.complaints = (numberedLines 1 (contentLines content)).filterMap
      (complaint? config.linter (lintContext config known clock.now)) :=
  kept.complaints_finished (fun _ => trimmed_text) finished

/-- A file that is linted in time is a batch, and its lint warnings are those of its lines. -/
theorem parse_in_time (config : Config) (known : List String) (content : String) {clock : Clock}
    (settled : clock.Settled False (lintTime config)) :
    ∃ batch, parse config known content clock = some batch ∧
      batch.lintWarnings = (numberedLines 1 (contentLines content)).filterMap
        (complaint? config.linter (lintContext config known clock.now)) := by
  obtain ⟨journal, kept⟩ := exists_journal config known content clock
  have finished := kept.finished settled
  obtain ⟨batch, read⟩ := exists_batch kept (.inl finished)
  refine ⟨batch, read, ?_⟩
  rw [(describes_of_parse kept read).complaints]
  exact kept.all_complaints finished

end Batch

end ConsoleBatch
