import ConsoleBatch.Proofs.Journal
import Mathlib.Data.Nat.Basic
import Mathlib.Order.Monotone.Defs

/-! Which of the times that checks take a batch tells.

A line tells its times when it has been linted. So a batch has those of all lines up to the one on
which the deadline comes, and what ran on that one is in no table. -/

namespace ConsoleBatch

namespace Lint

theorem Clock.monotone_steady (step : Nat) : Monotone (Clock.steady step).readings := by
  intro _ _ later
  exact Nat.mul_le_mul_right step later

theorem spent_eq_none {check : Check} {runs : List CheckRun}
    (others : ∀ run ∈ runs, run.check ≠ check) : spent check runs = none := by
  apply Option.not_isSome_iff_eq_none.mp
  rw [isSome_spent]
  rintro ⟨run, member, same⟩
  exact others run member same

end Lint

namespace Batch

open Lint (Checking Clock Linting spent)
open Text

/-- For every check a batch tells the time of its runs on the lines that were linted to their end,
and it tells of no check without such runs. On top of that there is only the time of the runs on
the line on which the deadline came. -/
theorem lint_time_accounted (config : Config) (known : List String) (content : String)
    (clock : Clock) (batch : Parsed) (read : parse config known content clock = some batch) :
    (∃ journal, Journal.Of config known content clock journal) ∧
    ∀ journal, Journal.Of config known content clock journal →
      batch.lintTimedOut = journal.struck.isSome ∧
      ∀ check,
        batch.timings.get? check = spent check journal.lintedRuns ∧
        ((batch.timings.get? check).isSome = true ↔
          ∃ run ∈ journal.lintedRuns, run.check = check) ∧
        spent check journal.runs =
          Option.merge (· + ·) (batch.timings.get? check) (spent check journal.struckRuns) ∧
        ((∀ run ∈ journal.struckRuns, run.check ≠ check) →
          batch.timings.get? check = spent check journal.runs) := by
  refine ⟨exists_journal config known content clock, ?_⟩
  intro journal kept
  have told := describes_of_parse kept read
  refine ⟨told.timedOut, ?_⟩
  intro check
  have whole : spent check journal.runs =
      Option.merge (· + ·) (batch.timings.get? check) (spent check journal.struckRuns) := by
    rw [told.times]
    exact Lint.spent_append check journal.lintedRuns journal.struckRuns
  refine ⟨told.times check, ?_, whole, ?_⟩
  · rw [told.times]
    exact Lint.isSome_spent
  · intro others
    rw [whole, Lint.spent_eq_none others, Option.merge_none_right]

def doubled : Config where
  linter.execution := { lintOrder := [.blacklist, .blacklist], maxLintTime := 1 }

theorem lint_time_accounted_doubled :
    ∃ batch journal, parse doubled [] "say hi" (.steady 50) = some batch ∧
      Journal.Of doubled [] "say hi" (.steady 50) journal ∧
      batch.lintTimedOut = false ∧
      batch.timings.get? .blacklist = some 100 ∧ spent .blacklist journal.runs = some 100 := by
  have timed : (parse doubled [] "say hi" (.steady 50)).map (fun batch =>
      (batch.lintTimedOut, batch.timings.get? .blacklist)) = some (false, some 100) := by
    decide +kernel
  obtain ⟨batch, read, shown⟩ := Option.map_eq_some_iff.mp timed
  obtain ⟨in_time, time⟩ := Prod.mk.inj shown
  obtain ⟨⟨journal, kept⟩, told⟩ :=
    lint_time_accounted doubled [] "say hi" (.steady 50) batch read
  obtain ⟨_, times⟩ := told journal kept
  have finished := (describes_of_parse kept read).finished in_time
  have all := (times .blacklist).2.2.2 (by simp [Journal.struckRuns, finished])
  exact ⟨batch, journal, read, kept, in_time, time, all.symm.trans time⟩

/-- When the second run is about to start the deadline has come, and the first one is lost. -/
theorem struck_runs_untimed :
    ∃ batch journal, Monotone (Clock.steady 600000).readings ∧
      parse doubled [] "say hi" (.steady 600000) = some batch ∧
      Journal.Of doubled [] "say hi" (.steady 600000) journal ∧
      ⟨.blacklist, 600000⟩ ∈ journal.runs ∧ batch.lintTimedOut = true ∧
      batch.timings.get? .blacklist = none := by
  have timed : (parse doubled [] "say hi" (.steady 600000)).map (fun batch =>
      (batch.lintTimedOut, batch.timings.get? .blacklist)) = some (true, none) := by
    decide +kernel
  obtain ⟨batch, read, shown⟩ := Option.map_eq_some_iff.mp timed
  obtain ⟨timedOut, time⟩ := Prod.mk.inj shown
  have checks : Checking doubled.linter.rules (lintContext doubled [] 0) .command "say hi"
      (Clock.steady 600000).next [.blacklist, .blacklist] [⟨.blacklist, 600000⟩] .struck
      (Clock.steady 600000).next.next.next.next.next :=
    .silent (by decide) rfl (by decide +kernel) (.struck (by decide))
  have trims : trimmed "say hi" = "say hi" := by decide +kernel
  have about : Lint.lineKind? (trimmed "say hi") = some .command := by decide +kernel
  have line : Linting doubled.linter (lintContext doubled [] 0) "say hi"
      (Clock.steady 600000).next [⟨.blacklist, 600000⟩] .struck
      (Clock.steady 600000).next.next.next.next.next := by
    refine .checked rfl about ?_
    rw [trims]
    exact checks
  have lines : numberedLines 1 (contentLines "say hi") = [⟨1, "say hi"⟩] := by decide +kernel
  have kept : Journal.Of doubled [] "say hi" (.steady 600000)
      ⟨[], some ⟨⟨1, "say hi"⟩, [⟨.blacklist, 600000⟩]⟩⟩ := by
    unfold Journal.Of
    rw [lines]
    exact .struck line
  exact ⟨batch, _, Clock.monotone_steady 600000, read, kept, by decide, timedOut, time⟩

end Batch

end ConsoleBatch
