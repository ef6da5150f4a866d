import ConsoleBatch.Run.Job

/-!
A request ends after finitely many jobs.

Jobs are weighed so that the job that follows another one is lighter: reading a file comes
before all else, and then every pause ahead costs the two jobs that it may take.
-/

namespace ConsoleBatch.Run

open Decimal (Double)

def pausesIn (actions : List Action) : Nat :=
  actions.countP fun action => ! action.isCommand

def Execution.pausesAhead (execution : Execution) : Nat :=
  pausesIn execution.ahead

def Job.reads : Job → Nat
  | read _ _ => 1
  | _ => 0

/-- A bound for the jobs from this one on, for one that follows reading. -/
def Job.weight : Job → Nat
  | read _ _ => 0
  | reportUnreadable => 1
  | begin _ none => 1
  | begin _ (some batch) => 2 * pausesIn batch.actions + 1
  | wait _ batch => 2 * batch.execution.pausesAhead + 2
  | resume batch => 2 * batch.execution.pausesAhead + 1
  | resumeLater _ batch => 2 * batch.execution.pausesAhead + 1

def Job.Precedes (later earlier : Job) : Prop :=
  later.reads < earlier.reads ∨ later.reads = earlier.reads ∧ later.weight < earlier.weight

theorem pausesIn_pause (seconds : Double) (rest : List Action) :
    pausesIn (.pause seconds :: rest) = pausesIn rest + 1 := by
  simp [pausesIn, Action.isCommand]

theorem pausesIn_append (first second : List Action) :
    pausesIn (first ++ second) = pausesIn first + pausesIn second :=
  List.countP_append

@[simp] theorem pausesIn_block (commands : List String) :
    pausesIn (commands.map .command) = 0 := by
  induction commands with
  | nil => rfl
  | cons command rest ih => exact ih

theorem pausesIn_afterCommands (actions : List Action) :
    pausesIn (afterCommands actions) ≤ pausesIn actions :=
  (List.dropWhile_suffix _).sublist.countP_le

theorem drop_passed (actions : List Action) :
    actions.drop (actions.length - (afterCommands actions).length) = afterCommands actions :=
  (List.suffix_iff_eq_drop.mp (List.dropWhile_suffix _)).symm

theorem pausesAhead_advance {execution : Execution} {seconds : Double}
    (stopped : execution.advance.stop = .pause seconds) :
    execution.advance.execution.pausesAhead < execution.pausesAhead := by
  unfold Execution.advance at stopped ⊢
  split at stopped
  · simp at stopped
  · rename_i unfinished
    simp only [unfinished, if_false]
    split at stopped
    · rename_i length rest found
      simp only [found]
      have fewer := pausesIn_afterCommands execution.ahead
      have here := drop_passed execution.ahead
      rw [found] at fewer here
      have reached : (execution.moved (execution.ahead.length -
          (.pause length :: rest : List Action).length + 1)
          (leadingCommands execution.ahead).length .suspended).ahead = rest := by
        have tail := congrArg (List.drop 1) here
        rw [List.drop_drop, Execution.ahead, List.drop_drop] at tail
        simpa [Execution.ahead, Execution.moved] using tail
      rw [Execution.pausesAhead, reached]
      rw [pausesIn_pause] at fewer
      exact fewer
    · simp at stopped

theorem weight_resumption (mode : TimerMode) (seconds : Double) (batch : InFlight) :
    (resumption mode seconds batch).weight ≤ 2 * batch.execution.pausesAhead + 2 := by
  cases mode <;> simp [resumption, Job.weight]

theorem reads_resumption (mode : TimerMode) (seconds : Double) (batch : InFlight) :
    (resumption mode seconds batch).reads = 0 := by
  cases mode <;> rfl

theorem drive_next {config : Config} {batch : InFlight} {job : Job}
    (next : (drive config batch).next = some job) :
    job.reads = 0 ∧ job.weight < 2 * batch.execution.pausesAhead + 1 := by
  unfold drive at next
  simp only at next
  split at next
  · rename_i seconds stopped
    simp only [Option.some.injEq] at next
    subst next
    have fewer := pausesAhead_advance stopped
    have light := weight_resumption config.settings.timerMode seconds
      { batch with execution := batch.execution.advance.execution }
    refine ⟨reads_resumption _ _ _, ?_⟩
    simp only at light
    omega
  · simp at next

theorem runJob_next {config : Config} {folder : Files.Folder} {files : Files.Tree}
    {clock : Lint.Clock} {job next : Job}
    (follows : (runJob config folder files clock job).next = some next) : next.Precedes job := by
  cases job with
  | read fileName known =>
    simp only [runJob, Option.some.injEq] at follows
    subst follows
    left
    unfold afterReading
    split <;> simp [Job.reads]
  | reportUnreadable => simp [runJob] at follows
  | begin fileName parsed =>
    cases parsed with
    | none => simp [runJob, beginBatch] at follows
    | some batch =>
      simp only [runJob, beginBatch] at follows
      obtain ⟨reads, weight⟩ := drive_next follows
      exact Or.inr ⟨reads, by simpa [Execution.pausesAhead, Execution.ahead, freshExecution,
        Job.weight] using weight⟩
  | wait millis batch =>
    simp only [runJob, Option.some.injEq] at follows
    subst follows
    exact Or.inr ⟨rfl, by simp [Job.weight]⟩
  | resume batch => exact Or.inr (drive_next follows)
  | resumeLater ticks batch => exact Or.inr (drive_next follows)

end ConsoleBatch.Run
