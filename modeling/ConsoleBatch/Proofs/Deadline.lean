import ConsoleBatch.Proofs.Nearest
import ConsoleBatch.Proofs.Passes

/-! Linting twice, by two clocks that come to the deadline alike.

All that linting takes from outside is the known commands, as a set, and its clock. Two passes in
which the deadline has come at the same looks end alike; only the measured times differ, and of
those only a relation between the elapsed times is kept. -/

namespace ConsoleBatch

namespace Lint

variable {alike : Nat → Nat → Prop}

/-- A relation between elapsed times that their sums keep. -/
def KeptBySums (alike : Nat → Nat → Prop) : Prop :=
  ∀ {first first' second second'}, alike first first' → alike second second' →
    alike (first + second) (first' + second')

namespace Clock

def look (clock : Clock) (later : Nat) : Nat :=
  clock.readings (clock.taken + later)

def elapsed (clock : Clock) (later : Nat) : Nat :=
  clock.look (later + 1) - clock.look later

/-- At every look, the deadline has come by both clocks or by neither. -/
structure InStep (alike : Nat → Nat → Prop) (due due' : Nat) (clock clock' : Clock) : Prop where
  deadline : ∀ later, due ≤ clock.look later ↔ due' ≤ clock'.look later
  elapsed : ∀ later, alike (clock.elapsed later) (clock'.elapsed later)

theorem look_next (clock : Clock) (later : Nat) : clock.next.look later = clock.look (later + 1) := by
  simp only [look, next, Nat.add_assoc, Nat.add_comm 1]

theorem elapsed_next (clock : Clock) (later : Nat) :
    clock.next.elapsed later = clock.elapsed (later + 1) := by
  simp only [elapsed, look_next]

theorem InStep.next {due due' : Nat} {clock clock' : Clock}
    (together : InStep alike due due' clock clock') :
    InStep alike due due' clock.next clock'.next := by
  constructor
  · intro later
    rw [look_next, look_next]
    exact together.deadline (later + 1)
  · intro later
    rw [elapsed_next, elapsed_next]
    exact together.elapsed (later + 1)

/-- At every look but the first, some time is over, or at none of them. -/
def Settled (expired : Prop) (time : Nat) (clock : Clock) : Prop :=
  ∀ later, clock.now + time ≤ clock.look (later + 1) ↔ expired

theorem inStep_of_settled {expired : Prop} {time : Nat} {clock clock' : Clock}
    (settled : clock.Settled expired time) (settled' : clock'.Settled expired time) :
    InStep (fun _ _ => True) (clock.now + time) (clock'.now + time) clock clock' := by
  constructor
  · intro later
    cases later with
    | zero =>
      change clock.now + time ≤ clock.now ↔ clock'.now + time ≤ clock'.now
      omega
    | succ later => rw [settled later, settled' later]
  · intro later
    trivial

end Clock

namespace Timings

def Alike (alike : Nat → Nat → Prop) (timings timings' : Timings) : Prop :=
  ∀ check, Option.Rel alike (timings.get? check) (timings'.get? check)

theorem alike_empty : Alike alike .empty .empty := by
  intro check
  rw [get?_empty]
  exact .none

theorem alike_merge (adds : KeptBySums alike) {left left' right right' : Timings}
    (first : Alike alike left left') (second : Alike alike right right') :
    Alike alike (left.merge right) (left'.merge right') := by
  intro check
  rw [get?_merge, get?_merge]
  have here := first check
  have there := second check
  generalize left.get? check = one, left'.get? check = one' at here
  generalize right.get? check = two, right'.get? check = two' at there
  cases here with
  | none =>
    cases there with
    | none => exact .none
    | some times => exact .some times
  | some before =>
    cases there with
    | none => exact .some before
    | some times => exact .some (adds before times)

theorem alike_single (check : Check) {nanos nanos' : Nat} (times : alike nanos nanos') :
    Alike alike (single check nanos) (single check nanos') := by
  intro other
  rw [get?_single, get?_single]
  split
  · exact .some times
  · exact .none

theorem alike_record (adds : KeptBySums alike) {timings timings' : Timings}
    (before : Alike alike timings timings') (check : Check) {nanos nanos' : Nat}
    (times : alike nanos nanos') :
    Alike alike (timings.record check nanos) (timings'.record check nanos') :=
  alike_merge adds before (alike_single check times)

end Timings

structure Context.Alike (ctx ctx' : Context) : Prop where
  known : ∀ name, name ∈ ctx.known ↔ name ∈ ctx'.known
  blacklist : ctx.blacklist = ctx'.blacklist
  order : ctx.order = ctx'.order

structure Finding.Alike (alike : Nat → Nat → Prop) (finding finding' : Finding) : Prop where
  warning : finding.warning = finding'.warning
  timings : Timings.Alike alike finding.timings finding'.timings

variable {ctx ctx' : Context} {clock clock' : Clock}

theorem warning?_alike (same : Context.Alike ctx ctx') (rules : LintRules) (kind : LineKind)
    (line : String) (check : Check) :
    warning? rules ctx kind line check = warning? rules ctx' kind line check := by
  cases check with
  | metaSyntax => rfl
  | unknownMeta => rfl
  | blacklist => simp only [warning?, same.blacklist]
  | existence => simp only [warning?, existenceWarning?, same.known, closestMatch_same same.known]

theorem runChecks_alike (adds : KeptBySums alike) (same : Context.Alike ctx ctx') (rules : LintRules)
    (kind : LineKind) (line : String) {timings timings' : Timings}
    (before : Timings.Alike alike timings timings')
    (together : Clock.InStep alike ctx.due ctx'.due clock clock') (checks : List Check) :
    Option.Rel (Finding.Alike alike) (runChecks rules ctx kind line timings clock checks).1
        (runChecks rules ctx' kind line timings' clock' checks).1 ∧
      Clock.InStep alike ctx.due ctx'.due (runChecks rules ctx kind line timings clock checks).2
        (runChecks rules ctx' kind line timings' clock' checks).2 := by
  induction checks generalizing timings timings' clock clock' with
  | nil => exact ⟨.some ⟨rfl, before⟩, together⟩
  | cons check rest ih =>
    have deadline : ctx.due ≤ clock.now ↔ ctx'.due ≤ clock'.now := together.deadline 0
    simp only [runChecks, deadline, ← warning?_alike same]
    split
    · exact ⟨.none, together.next⟩
    · split
      · have times : alike (clock.next.next.now - clock.next.now)
            (clock'.next.next.now - clock'.next.now) := together.elapsed 1
        have recorded := Timings.alike_record adds before check times
        split
        · exact ⟨.some ⟨rfl, recorded⟩, together.next.next.next⟩
        · exact ih recorded together.next.next.next
      · exact ih before together.next

theorem lintLine_alike (adds : KeptBySums alike) (same : Context.Alike ctx ctx')
    (linter : LinterConfig) (line : String)
    (together : Clock.InStep alike ctx.due ctx'.due clock clock') :
    Option.Rel (Finding.Alike alike) (lintLine linter ctx line clock).1
        (lintLine linter ctx' line clock').1 ∧
      Clock.InStep alike ctx.due ctx'.due (lintLine linter ctx line clock).2
        (lintLine linter ctx' line clock').2 := by
  unfold lintLine
  dsimp only
  split
  · split
    · rw [← same.order]
      exact runChecks_alike adds same _ _ _ Timings.alike_empty together _
    · exact ⟨.some ⟨rfl, Timings.alike_empty⟩, together⟩
  · exact ⟨.some ⟨rfl, Timings.alike_empty⟩, together⟩

end Lint

namespace Batch

open Lint (KeptBySums Clock Context Timings)

variable {alike : Nat → Nat → Prop}

structure LintPass.Alike (alike : Nat → Nat → Prop) (pass pass' : LintPass) : Prop where
  warnings : pass.warnings = pass'.warnings
  timedOut : pass.timedOut = pass'.timedOut
  timings : Timings.Alike alike pass.timings pass'.timings

inductive Parsed.Alike (alike : Nat → Nat → Prop) : Parsed → Parsed → Prop
  | timed (parsed : Parsed) (timings' : Timings)
      (times : Timings.Alike alike parsed.timings timings') :
      Parsed.Alike alike parsed { parsed with timings := timings' }

theorem lintLines_alike (adds : KeptBySums alike) {ctx ctx' : Context}
    (same : Context.Alike ctx ctx') (linter : LinterConfig) {clock clock' : Clock}
    (together : Clock.InStep alike ctx.due ctx'.due clock clock') (lines : List Line) :
    LintPass.Alike alike (lintLines linter ctx clock lines).1
      (lintLines linter ctx' clock' lines).1 := by
  induction lines generalizing clock clock' with
  | nil => exact ⟨rfl, rfl, Timings.alike_empty⟩
  | cons line rest ih =>
    obtain ⟨found, later⟩ := Lint.lintLine_alike adds same linter line.text together
    unfold lintLines
    generalize Lint.lintLine linter ctx line.text clock = result,
      Lint.lintLine linter ctx' line.text clock' = result' at found later
    obtain ⟨finding?, after⟩ := result
    obtain ⟨finding?', after'⟩ := result'
    cases found with
    | none => exact ⟨rfl, rfl, Timings.alike_empty⟩
    | some finding =>
      have others := ih later
      refine ⟨?_, others.timedOut, Timings.alike_merge adds finding.timings others.timings⟩
      change _ :: _ = _ :: _
      rw [finding.warning, others.warnings]

theorem assemble_alike (config : Config) (lines : List Line) {pass pass' : LintPass}
    (passes : LintPass.Alike alike pass pass') :
    Parsed.Alike alike (assemble config lines pass) (assemble config lines pass') := by
  have rest : assemble config lines pass' =
      { assemble config lines pass with timings := pass'.timings } := by
    unfold assemble
    rw [passes.warnings, passes.timedOut]
  rw [rest]
  exact .timed _ _ passes.timings

def lintTime (config : Config) : Nat :=
  config.linter.execution.maxLintTime * nanosPerMilli

/-- The same content gives the same batch, but for the times of the checks, or is cancelled both
times. -/
theorem parse_alike (adds : KeptBySums alike) (config : Config) {known known' : List String}
    (same : ∀ name, name ∈ known ↔ name ∈ known') (content : String) {clock clock' : Clock}
    (together : Clock.InStep alike (clock.now + lintTime config) (clock'.now + lintTime config)
      clock clock') :
    Option.Rel (Parsed.Alike alike) (parse config known content clock)
      (parse config known' content clock') := by
  have contexts : Context.Alike (lintContext config known clock.now)
      (lintContext config known' clock'.now) := ⟨same, rfl, rfl⟩
  have passes : LintPass.Alike alike (lintPass config known content clock)
      (lintPass config known' content clock') :=
    lintLines_alike adds contexts config.linter together.next _
  rw [parse_eq, parse_eq, ← passes.timedOut]
  split
  · exact .none
  · exact .some (assemble_alike config _ passes)

end Batch

end ConsoleBatch
