import ConsoleBatch.Proofs.CheckOrder
import ConsoleBatch.Proofs.Deadline
import ConsoleBatch.Proofs.Timeout

/-! Checks that are switched off, against checks that are not in the order.

A check that is switched off does not run, but the clock is looked at in front of it. So it can be
taken out of the order as long as the deadline is ahead. Once the deadline has come, any check in the
order keeps a line from being linted, and the rules have no part in whether a batch is cut short. -/

namespace ConsoleBatch

def Config.enabledOnly (config : Config) : Config :=
  config.ordering (config.linter.execution.lintOrder.filter config.linter.rules.enables)

namespace Lint

open Batch (Significant)
open Text

def Context.enabledOnly (ctx : Context) (rules : LintRules) : Context :=
  { ctx with order := ctx.order.filter rules.enables }

def SameResult (result result' : Option Finding) : Prop :=
  Option.Rel (Finding.Alike fun _ _ => True) result result'

section

variable {linter : LinterConfig} {ctx : Context} {line : String} {clock clock' : Clock}

theorem Timings.alike_of_checks {timings timings' : Timings}
    (same : ∀ check, (timings.get? check).isSome = (timings'.get? check).isSome) :
    Timings.Alike (fun _ _ => True) timings timings' := by
  intro check
  have both := same check
  generalize timings.get? check = time, timings'.get? check = time' at both
  cases time with
  | none =>
    cases time' with
    | none => exact .none
    | some _ => cases both
  | some _ =>
    cases time' with
    | none => cases both
    | some _ => exact .some trivial

theorem sameResult_idle (nothing : linter.enabled = false ∨ ¬ Significant line) :
    SameResult (lintLine linter ctx line clock).1
      (lintLine linter (ctx.enabledOnly linter.rules) line clock').1 := by
  rw [lintLine_idle nothing, lintLine_idle nothing]
  exact .some ⟨rfl, Timings.alike_empty⟩

theorem sameResult_early (early : clock.Early ctx.due) (early' : clock'.Early ctx.due) :
    SameResult (lintLine linter ctx line clock).1
      (lintLine linter (ctx.enabledOnly linter.rules) line clock').1 := by
  by_cases nothing : linter.enabled = false ∨ ¬ Significant line
  · exact sameResult_idle nothing
  · obtain ⟨on, significant⟩ := not_or.mp nothing
    have enabled : linter.enabled = true := by simpa using on
    obtain ⟨kind, about⟩ := exists_kind (Classical.not_not.mp significant)
    obtain ⟨finding, found, _⟩ := lintLine_early linter ctx line early
    obtain ⟨finding', found', _⟩ :=
      lintLine_early linter (ctx.enabledOnly linter.rules) line early'
    obtain ⟨warning, timed⟩ := finding_eq enabled about found
    obtain ⟨warning', timed'⟩ := finding_eq enabled about found'
    -- Passing over the checks that are switched off a second time takes none away.
    have same_checks : (ctx.enabledOnly linter.rules).order.filter linter.rules.enables =
        ctx.order.filter linter.rules.enables := by
      simp [Context.enabledOnly]
    have same_words : warning? linter.rules (ctx.enabledOnly linter.rules) kind (trimmed line) =
        warning? linter.rules ctx kind (trimmed line) :=
      warning?_order linter.rules ctx _ ctx.due kind (trimmed line)
    rw [same_checks, same_words] at warning' timed'
    rw [found, found']
    refine .some ⟨warning.trans warning'.symm, Timings.alike_of_checks ?_⟩
    intro check
    exact Bool.eq_iff_iff.mpr ((timed check).trans (timed' check).symm)

theorem Linting.of_struck {runs : List CheckRun} {after : Clock}
    (course : Linting linter ctx line clock runs .struck after) :
    linter.enabled = true ∧ Significant line ∧ ctx.order ≠ [] := by
  cases course with
  | checked enabled about course =>
    refine ⟨enabled, ?_, ?_⟩
    · apply Classical.byContradiction
      intro nothing
      rw [lineKind?_eq_none_iff.mpr nothing] at about
      cases about
    · intro empty
      rw [empty] at course
      cases course

theorem lintLine_unordered (empty : ctx.order = []) :
    (lintLine linter ctx line clock).1 = some {} := by
  obtain ⟨runs, ending, after, course⟩ := exists_linting linter ctx line clock
  rw [course.lintLine_eq]
  cases course with
  | idle => rfl
  | checked _ _ course =>
    rw [empty] at course
    cases course
    rfl

/-- The order has checks, but none that is enabled. -/
def ListsDisabledOnly (rules : LintRules) (order : List Check) : Prop :=
  order ≠ [] ∧ ∀ check ∈ order, rules.enables check = false

theorem filter_enabled_eq_nil_iff {rules : LintRules} {order : List Check} :
    order.filter rules.enables = [] ↔ ∀ check ∈ order, rules.enables check = false := by
  simp only [List.filter_eq_nil_iff, Bool.not_eq_true]

/-- Once the deadline has come, checks that are switched off make a difference where there are no
others. -/
theorem sameResult_late_iff (late : ctx.due ≤ clock.now) (late' : ctx.due ≤ clock'.now) :
    SameResult (lintLine linter ctx line clock).1
        (lintLine linter (ctx.enabledOnly linter.rules) line clock').1 ↔
      ¬ (linter.enabled = true ∧ Significant line ∧
        ListsDisabledOnly linter.rules ctx.order) := by
  by_cases nothing : linter.enabled = false ∨ ¬ Significant line
  · refine iff_of_true (sameResult_idle nothing) ?_
    rintro ⟨enabled, significant, _⟩
    rcases nothing with off | idle
    · rw [enabled] at off
      cases off
    · exact idle significant
  · obtain ⟨on, some_text⟩ := not_or.mp nothing
    have enabled : linter.enabled = true := by simpa using on
    have significant : Significant line := Classical.not_not.mp some_text
    by_cases removed : ctx.order.filter linter.rules.enables = []
    · have all_off := filter_enabled_eq_nil_iff.mp removed
      have clean : (lintLine linter (ctx.enabledOnly linter.rules) line clock').1 = some {} :=
        lintLine_unordered removed
      rw [clean]
      by_cases empty : ctx.order = []
      · rw [lintLine_unordered empty]
        refine iff_of_true (.some ⟨rfl, Timings.alike_empty⟩) ?_
        rintro ⟨_, _, listed, _⟩
        exact listed empty
      · rw [lintLine_late enabled significant late empty]
        refine iff_of_false (fun same => nomatch same) ?_
        exact fun other => other ⟨enabled, significant, empty, all_off⟩
    · have listed : ctx.order ≠ [] := by
        intro empty
        rw [empty] at removed
        exact removed rfl
      have struck' : (lintLine linter (ctx.enabledOnly linter.rules) line clock').1 = none :=
        lintLine_late enabled significant late' removed
      rw [lintLine_late enabled significant late listed, struck']
      refine iff_of_true .none ?_
      rintro ⟨_, _, _, all_off⟩
      exact removed (filter_enabled_eq_nil_iff.mpr all_off)

end

end Lint

namespace Batch

open Lint (Clock Context Linting ListsDisabledOnly SameResult lintLine)
open Text

structure HasLinting (config : Config) (content : String) : Prop where
  enabled : config.linter.enabled = true
  listed : config.linter.execution.lintOrder ≠ []
  lines : ∃ raw ∈ contentLines content, Significant raw

theorem Keeps.of_struck {linter : LinterConfig} {ctx : Context} {clock : Clock} {lines : List Line}
    {journal : Journal} (keeps : Keeps linter ctx clock lines journal) {struck : StruckLine}
    (ends : journal.struck = some struck) :
    struck.line ∈ lines ∧ linter.enabled = true ∧ ctx.order ≠ [] := by
  induction keeps with
  | done => cases ends
  | linted _ _ ih =>
    obtain ⟨member, rest⟩ := ih ends
    exact ⟨List.mem_cons_of_mem _ member, rest⟩
  | struck here =>
    obtain rfl := Option.some.inj ends
    obtain ⟨enabled, _, listed⟩ := here.of_struck
    exact ⟨List.mem_cons_self, enabled, listed⟩

variable {config : Config} {known : List String} {content : String} {clock : Clock}
  {expired : Prop}

theorem hasLinting_of_struck {journal : Journal}
    (kept : Journal.Of config known content clock journal) {struck : StruckLine}
    (ends : journal.struck = some struck) : HasLinting config content := by
  obtain ⟨member, enabled, listed⟩ := Keeps.of_struck kept ends
  obtain ⟨index, raw, here, significant, _⟩ := mem_numberedLines.mp member
  exact ⟨enabled, listed, raw, List.mem_of_getElem? here, significant⟩

theorem timedOut_iff (settled : clock.Settled expired (lintTime config)) :
    (lintPass config known content clock).timedOut = true ↔
      expired ∧ HasLinting config content := by
  obtain ⟨journal, kept⟩ := exists_journal config known content clock
  constructor
  · intro timedOut
    have flag : (lintPass config known content clock).timedOut = journal.struck.isSome :=
      kept.timedOut_eq
    rw [flag] at timedOut
    obtain ⟨struck, ends⟩ := Option.isSome_iff_exists.mp timedOut
    refine ⟨?_, hasLinting_of_struck kept ends⟩
    apply Classical.byContradiction
    intro ahead
    rw [eq_false ahead] at settled
    rw [kept.finished settled] at ends
    cases ends
  · rintro ⟨late, enabled, listed, raw, member, significant⟩
    obtain ⟨index, here⟩ := List.mem_iff_getElem?.mp member
    have numbered := mem_numberedLines.mpr ⟨index, raw, here, significant, rfl⟩
    obtain ⟨line, rest, lines⟩ := List.exists_cons_of_ne_nil (List.ne_nil_of_mem numbered)
    have first : line ∈ numberedLines 1 (contentLines content) := by
      rw [lines]
      exact List.mem_cons_self
    have text_significant : Significant line.text := by
      obtain ⟨_, _, _, significant, same⟩ := mem_numberedLines.mp first
      rw [same]
      unfold Significant
      rw [trimmed_trimmed]
      exact significant
    have late_look : (lintContext config known clock.now).due ≤ clock.next.now :=
      (settled 0).mpr late
    have struck : (lintLine config.linter (lintContext config known clock.now) line.text
        clock.next).1 = none :=
      Lint.lintLine_late enabled text_significant late_look listed
    unfold lintPass
    rw [lines, lintLines]
    generalize lintLine config.linter (lintContext config known clock.now) line.text
      clock.next = result at struck
    obtain ⟨found, after⟩ := result
    cases struck
    rfl

theorem parse_unordered (empty : config.linter.execution.lintOrder = []) :
    ∃ batch, parse config known content clock = some batch ∧ batch.lintTimedOut = false := by
  obtain ⟨journal, kept⟩ := exists_journal config known content clock
  have finished : journal.struck = none := by
    apply Option.not_isSome_iff_eq_none.mp
    intro cut
    obtain ⟨struck, ends⟩ := Option.isSome_iff_exists.mp cut
    exact (hasLinting_of_struck kept ends).listed empty
  obtain ⟨batch, read⟩ := exists_batch kept (.inl finished)
  refine ⟨batch, read, ?_⟩
  rw [(describes_of_parse kept read).timedOut, finished]
  rfl

/-- A batch is cancelled or marked as cut short if the deadline has come from the start and there is
something to lint, whatever the rules. -/
theorem verdict_iff (known : List String) (settled : clock.Settled expired (lintTime config)) :
    (parse config known content clock = none ↔
      (expired ∧ HasLinting config content) ∧
        config.linter.execution.onTimeout = .cancelExecution) ∧
    ∀ batch, parse config known content clock = some batch →
      (batch.lintTimedOut = true ↔ expired ∧ HasLinting config content) := by
  have timedOut : (lintPass config known content clock).timedOut = true ↔
      expired ∧ HasLinting config content := timedOut_iff settled
  rw [← timedOut, parse_eq]
  constructor
  · simp
  · intro batch read
    split at read
    · cases read
    · obtain rfl := Option.some.inj read
      exact Iff.rfl

/-- While the deadline is ahead, a check that is switched off can be taken out of the order. Once it
has come, this makes a difference on a line where all checks of the order are switched off, and on no
other: there the deadline strikes although nothing is to run. So a batch without an enabled check is
never cut short while the deadline is ahead, but it is once the deadline has come, unless there is
nothing to lint or no check in the order. -/
theorem switched_off_is_removed (config : Config) (known : List String) :
    (∀ (ctx : Context) (line : String) (clock clock' : Clock),
      (clock.Early ctx.due → clock'.Early ctx.due →
        SameResult (lintLine config.linter ctx line clock).1
          (lintLine config.linter (ctx.enabledOnly config.linter.rules) line clock').1) ∧
      (ctx.due ≤ clock.now → ctx.due ≤ clock'.now →
        (SameResult (lintLine config.linter ctx line clock).1
            (lintLine config.linter (ctx.enabledOnly config.linter.rules) line clock').1 ↔
          ¬ (config.linter.enabled = true ∧ Significant line ∧
            ListsDisabledOnly config.linter.rules ctx.order)))) ∧
    ∀ (content : String) (clock : Clock),
      (∀ expired, clock.Settled expired (lintTime config) →
        (parse config known content clock = none ↔
          (expired ∧ HasLinting config content) ∧
            config.linter.execution.onTimeout = .cancelExecution) ∧
        ∀ batch, parse config known content clock = some batch →
          (batch.lintTimedOut = true ↔ expired ∧ HasLinting config content)) ∧
      ((∀ check ∈ config.linter.execution.lintOrder, config.linter.rules.enables check = false) →
        ∃ batch, parse config.enabledOnly known content clock = some batch ∧
          batch.lintTimedOut = false) := by
  constructor
  · intro ctx line clock clock'
    exact ⟨Lint.sameResult_early, Lint.sameResult_late_iff⟩
  · intro content clock
    refine ⟨fun expired settled => verdict_iff known settled, ?_⟩
    intro all_off
    exact parse_unordered (Lint.filter_enabled_eq_nil_iff.mpr all_off)

def muted : Config where
  linter := {
    rules := { warnOnBlacklisted := false }
    execution := { lintOrder := [.blacklist], maxLintTime := 0 } }

theorem switched_off_is_removed_muted :
    let ctx : Context := ⟨["say"], ["ban"], [.blacklist, .existence], 1⟩
    SameResult (lintLine muted.linter ctx "/Ban Steve" (.still 0)).1
        (lintLine muted.linter (ctx.enabledOnly muted.linter.rules) "/Ban Steve" (.still 0)).1 ∧
      SameResult (lintLine muted.linter ctx "/Ban Steve" (.still 1)).1
        (lintLine muted.linter (ctx.enabledOnly muted.linter.rules) "/Ban Steve" (.still 1)).1 ∧
      (∀ check ∈ muted.linter.execution.lintOrder, muted.linter.rules.enables check = false) ∧
      (∃ batch, parse muted ["say"] mixed (.still 0) = some batch ∧ batch.lintTimedOut = true) ∧
      ∃ batch, parse muted.enabledOnly ["say"] mixed (.still 0) = some batch ∧
        batch.lintTimedOut = false := by
  intro ctx
  obtain ⟨lines, batches⟩ := switched_off_is_removed muted ["say"]
  have all_off : ∀ check ∈ muted.linter.execution.lintOrder,
      muted.linter.rules.enables check = false := by
    decide
  have settled : (Clock.still 0).Settled True (lintTime muted) := fun _ =>
    iff_of_true (Nat.le_refl 0) trivial
  have something : HasLinting muted mixed :=
    ⟨rfl, by decide, "/Stop now", by decide +kernel, by decide +kernel⟩
  refine ⟨?_, ?_, all_off, ?_, (batches mixed (.still 0)).2 all_off⟩
  · exact (lines ctx "/Ban Steve" (.still 0) (.still 0)).1 (fun _ => Nat.zero_lt_one)
      fun _ => Nat.zero_lt_one
  · apply ((lines ctx "/Ban Steve" (.still 1) (.still 1)).2 (Nat.le_refl 1) (Nat.le_refl 1)).mpr
    rintro ⟨_, _, _, none_on⟩
    cases none_on .existence (by decide)
  · obtain ⟨cancelled, cut⟩ := (batches mixed (.still 0)).1 True settled
    have goes_on : parse muted ["say"] mixed (.still 0) ≠ none := by
      intro nothing
      cases (cancelled.mp nothing).2
    obtain ⟨batch, read⟩ := Option.ne_none_iff_exists'.mp goes_on
    exact ⟨batch, read, (cut batch read).mpr ⟨trivial, something⟩⟩

/-- A check that is switched off lets the deadline strike, on a line and in a batch that has no other
checks. Without it in the order there is nothing to strike at. -/
theorem switched_off_check_times_out :
    (∀ check ∈ muted.linter.execution.lintOrder, muted.linter.rules.enables check = false) ∧
      (lintLine muted.linter (lintContext muted [] 0) "say hi" (.still 0)).1 = none ∧
      (lintLine muted.linter ((lintContext muted [] 0).enabledOnly muted.linter.rules) "say hi"
        (.still 0)).1 = some {} ∧
      (parse muted [] "say hi" (.still 0)).map Parsed.lintTimedOut = some true ∧
      parse (muted.handling .cancelExecution) [] "say hi" (.still 0) = none := by
  decide +kernel

end Batch

end ConsoleBatch
