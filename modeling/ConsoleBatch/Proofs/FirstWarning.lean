import ConsoleBatch.Proofs.Accounting
import ConsoleBatch.Proofs.Deadline
import ConsoleBatch.Proofs.Directives

/-! What linting says of a file when there is time for all of it.

The deadline has no part in it then. Each line gets the first warning of the enabled checks, in
their order, and the warnings of a batch are those of its lines, one line after the other. -/

namespace ConsoleBatch

namespace Lint

def firstWarning? (linter : LinterConfig) (ctx : Context) (line : String) : Option String :=
  match lineKind? line with
  | none => none
  | some kind =>
    if linter.enabled then
      (ctx.order.filter linter.rules.enables).findSome? (warning? linter.rules ctx kind line)
    else none

section

theorem findSome?_sole {checks : List Check} {said : Check → Option String} {check : Check}
    (listed : check ∈ checks) (silent : ∀ other ∈ checks, other ≠ check → said other = none) :
    checks.findSome? said = said check := by
  cases found : checks.findSome? said with
  | none => exact (List.findSome?_eq_none_iff.mp found check listed).symm
  | some warning =>
    obtain ⟨other, member, word⟩ := List.exists_of_findSome?_eq_some found
    by_cases same : other = check
    · rw [← same, word]
    · rw [silent other member same] at word
      cases word

variable {linter : LinterConfig} {ctx : Context} {line : String}

/-- Only one check is about a line that starts with `!sleep`. -/
theorem firstWarning?_sleep (enabled : linter.enabled = true)
    (checked : linter.rules.warnInvalidSyntax = true) (ordered : .metaSyntax ∈ ctx.order)
    (sleeps : StartsWithSleep line) : firstWarning? linter ctx line = sleepWarning? line := by
  have listed : Check.metaSyntax ∈ ctx.order.filter linter.rules.enables :=
    List.mem_filter.mpr ⟨ordered, checked⟩
  have silent : ∀ other ∈ ctx.order.filter linter.rules.enables, other ≠ .metaSyntax →
      warning? linter.rules ctx .sleep line other = none := by
    intro other _ differs
    cases other with
    | metaSyntax => exact absurd rfl differs
    | unknownMeta | blacklist | existence => rfl
  have sole := findSome?_sole listed silent
  unfold firstWarning?
  simp only [lineKind?_sleep sleeps, enabled, if_true, sole]
  rfl

theorem firstWarning?_blacklist (enabled : linter.enabled = true)
    (checked : linter.rules.warnOnBlacklisted = true)
    (alone : ∀ check, check ∈ ctx.order ↔ check = .blacklist) :
    firstWarning? linter ctx line =
      if lineKind? line = some .command then blacklistWarning? ctx.blacklist line else none := by
  have listed : Check.blacklist ∈ ctx.order.filter linter.rules.enables :=
    List.mem_filter.mpr ⟨(alone .blacklist).mpr rfl, checked⟩
  have sole : ∀ said : Check → Option String,
      (ctx.order.filter linter.rules.enables).findSome? said = said .blacklist := by
    intro said
    apply findSome?_sole listed
    intro other member differs
    exact absurd ((alone other).mp (List.mem_filter.mp member).1) differs
  unfold firstWarning?
  simp only [enabled, if_true, sole]
  cases lineKind? line with
  | none => simp
  | some kind => cases kind <;> simp [warning?]

end

def Clock.Early (due : Nat) (clock : Clock) : Prop :=
  ∀ later, clock.look later < due

theorem Clock.Early.next {due : Nat} {clock : Clock} (early : clock.Early due) :
    clock.next.Early due := by
  intro later
  rw [Clock.look_next]
  exact early (later + 1)

theorem Clock.early_of_settled {time : Nat} {clock : Clock} (settled : clock.Settled False time) :
    clock.next.Early (clock.now + time) := by
  intro later
  have never : ¬ clock.now + time ≤ clock.look (later + 1) := (settled later).mp
  rw [Clock.look_next]
  omega

end Lint

namespace Batch

open Lint (Context firstWarning?)
open Text

/-- The lint warning of a line, in the words of the first check that has some. -/
def complaint? (linter : LinterConfig) (ctx : Context) (line : Line) : Option Warning :=
  (firstWarning? linter ctx line.text).map (.lint line.number line.text)

theorem trimmed_text {raws : List String} {line : Line} (member : line ∈ numberedLines 1 raws) :
    trimmed line.text = line.text := by
  obtain ⟨_, raw, _, same⟩ := significant_of_mem_numberedLines member
  rw [same, trimmed_trimmed]

theorem complaint_lineWarnings (security : Security) (line : Line) (lint : Option String) :
    (lineWarnings security line lint).filter Warning.isLint =
      (lint.map (.lint line.number line.text)).toList := by
  unfold lineWarnings
  cases lint <;> cases badSleep? security line <;> rfl

theorem complaints_silent (security : Security) (lines : List Line) :
    (List.zipWith (lineWarnings security) lines (lines.map fun _ => none)).flatten.filter
        Warning.isLint = [] := by
  induction lines with
  | nil => rfl
  | cons line rest ih =>
    rw [List.map_cons, List.zipWith_cons_cons, List.flatten_cons, List.filter_append,
      complaint_lineWarnings, ih]
    rfl

theorem lintWarnings_lineWarnings (config : Config) (lines : List Line) (pass : LintPass) :
    (assemble config lines pass).lintWarnings =
      (List.zipWith (lineWarnings config.security) lines pass.warnings).flatten.filter
        Warning.isLint := by
  have none_at_end : ∀ quiet : Bool,
      (if quiet then [Warning.emptyFile] else []).filter Warning.isLint = [] := by
    intro quiet
    cases quiet <;> rfl
  unfold Parsed.lintWarnings assemble
  simp only [List.filter_append, none_at_end, List.append_nil]

end Batch

end ConsoleBatch
