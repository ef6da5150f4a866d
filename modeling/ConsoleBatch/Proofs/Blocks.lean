import ConsoleBatch.Run.Job

/-! A batch as blocks of commands between its pauses.

Advancing takes one block: the commands up to the next pause, or up to the end. -/

namespace ConsoleBatch.Run

open Decimal (Double)

def commandsIn (actions : List Action) : List String :=
  actions.filterMap Action.text?

/-- The steps that are left to take; all of them, in an execution that has not begun. -/
def Execution.remaining (execution : Execution) : List Action :=
  if execution.state = .finished then [] else execution.ahead

theorem commandsIn_append (first second : List Action) :
    commandsIn (first ++ second) = commandsIn first ++ commandsIn second :=
  List.filterMap_append

@[simp] theorem commandsIn_block (commands : List String) :
    commandsIn (commands.map .command) = commands := by
  induction commands with
  | nil => rfl
  | cons command rest ih => exact congrArg (command :: ·) ih

@[simp] theorem commandsIn_pause (seconds : Double) (back : List Action) :
    commandsIn (.pause seconds :: back) = commandsIn back := rfl

@[simp] theorem commandsIn_block_pause (commands : List String) (seconds : Double) :
    commandsIn (commands.map .command ++ [.pause seconds]) = commands := by
  rw [commandsIn_append, commandsIn_block, commandsIn_pause]
  exact List.append_nil commands

/-- Steps are one block, or a block, a pause, and more steps. -/
theorem block_split (actions : List Action) :
    (∃ commands : List String, actions = commands.map .command) ∨
      ∃ (commands : List String) (seconds : Double) (back : List Action),
        actions = commands.map .command ++ .pause seconds :: back := by
  induction actions with
  | nil => exact .inl ⟨[], rfl⟩
  | cons action rest ih =>
    cases action with
    | pause seconds => exact .inr ⟨[], seconds, rest, rfl⟩
    | command text =>
      rcases ih with ⟨commands, rfl⟩ | ⟨commands, seconds, back, rfl⟩
      · exact .inl ⟨text :: commands, rfl⟩
      · exact .inr ⟨text :: commands, seconds, back, rfl⟩

/-- A pause stands behind the first block, which holds the same commands however it is cut. -/
theorem block_before_pause {commands : List String} {seconds other : Double}
    {front back rest : List Action}
    (cut : commands.map .command ++ .pause seconds :: rest = front ++ .pause other :: back) :
    front = commands.map .command ∧ seconds = other ∧ rest = back ∨
      ∃ inner, front = commands.map .command ++ .pause seconds :: inner ∧
        rest = inner ++ .pause other :: back := by
  induction commands generalizing front with
  | nil =>
    cases front with
    | nil =>
      obtain ⟨same, rfl⟩ := List.cons.inj cut
      cases same
      exact .inl ⟨rfl, rfl, rfl⟩
    | cons first inner =>
      obtain ⟨rfl, rfl⟩ := List.cons.inj cut
      exact .inr ⟨inner, rfl, rfl⟩
  | cons command commands ih =>
    cases front with
    | nil => cases (List.cons.inj cut).1
    | cons first front =>
      obtain ⟨rfl, tail⟩ := List.cons.inj cut
      rcases ih tail with ⟨rfl, same⟩ | ⟨inner, rfl, same⟩
      · exact .inl ⟨rfl, same⟩
      · exact .inr ⟨inner, rfl, same⟩

theorem leadingCommands_block (commands : List String) (back : List Action) :
    leadingCommands (commands.map .command ++ back) = commands ++ leadingCommands back := by
  induction commands with
  | nil => rfl
  | cons command rest ih => exact congrArg (command :: ·) ih

theorem afterCommands_block (commands : List String) (back : List Action) :
    afterCommands (commands.map .command ++ back) = afterCommands back := by
  induction commands with
  | nil => rfl
  | cons command rest ih => exact ih

namespace Execution

theorem remaining_unstarted {execution : Execution} (first : execution.cursor = 0)
    (unfinished : execution.state ≠ .finished) : execution.remaining = execution.actions := by
  rw [remaining, if_neg unfinished, ahead, first, List.drop_zero]

def behind (execution : Execution) (front : List Action) (state : RunState) : Execution :=
  execution.moved front.length (commandsIn front).length state

theorem ahead_behind {execution : Execution} {front back : List Action} (state : RunState)
    (left : execution.ahead = front ++ back) : (execution.behind front state).ahead = back := by
  change execution.actions.drop (execution.cursor + front.length) = back
  rw [← List.drop_drop]
  change execution.ahead.drop front.length = back
  rw [left, List.drop_left]

theorem advance_last {execution : Execution} {commands : List String}
    (unfinished : execution.state ≠ .finished)
    (left : execution.ahead = commands.map .command) :
    execution.advance =
      { dispatched := commands
        stop := .finished (execution.behind (commands.map .command) .finished).summary
        execution := execution.behind (commands.map .command) .finished } := by
  have block : leadingCommands execution.ahead = commands := by
    rw [left]
    simpa [leadingCommands] using leadingCommands_block commands []
  have stop : afterCommands execution.ahead = [] := by
    rw [left]
    simpa [afterCommands] using afterCommands_block commands []
  unfold advance behind
  rw [if_neg unfinished, commandsIn_block]
  simp only [stop, block]
  rw [left]
  rfl

theorem advance_block {execution : Execution} {commands : List String} {seconds : Double}
    {back : List Action} (unfinished : execution.state ≠ .finished)
    (left : execution.ahead = commands.map .command ++ .pause seconds :: back) :
    execution.advance =
      { dispatched := commands
        stop := .pause seconds
        execution := execution.behind (commands.map .command ++ [.pause seconds]) .suspended } := by
  have block : leadingCommands execution.ahead = commands := by
    rw [left, leadingCommands_block]
    exact List.append_nil commands
  have stop : afterCommands execution.ahead = .pause seconds :: back := by
    rw [left, afterCommands_block]
    rfl
  have passed : execution.ahead.length - (Action.pause seconds :: back).length + 1 =
      (commands.map Action.command ++ [Action.pause seconds]).length := by
    rw [left]
    simp only [List.length_append, List.length_cons, List.length_nil]
    omega
  unfold advance behind
  rw [if_neg unfinished, commandsIn_block_pause, ← passed]
  simp only [stop, block]

theorem advance_finished {execution : Execution} (finished : execution.state = .finished) :
    execution.advance =
      { dispatched := [], stop := .finished execution.summary, execution } := by
  unfold advance
  rw [if_pos finished]

theorem advance_ends {execution : Execution} {commands : List String}
    (left : execution.remaining = commands.map .command) :
    execution.advance.dispatched = commands ∧
      execution.advance.stop = .finished
        { executed := execution.executed + commands.length, skipped := execution.skipped } := by
  unfold remaining at left
  split at left
  · rename_i finished
    have empty : commands = [] := List.map_eq_nil_iff.mp left.symm
    rw [advance_finished finished, empty]
    exact ⟨rfl, rfl⟩
  · rename_i unfinished
    rw [advance_last unfinished left]
    refine ⟨rfl, ?_⟩
    simp only [summary, behind, moved, commandsIn_block]

theorem advance_pauses {execution : Execution} {commands : List String} {seconds : Double}
    {back : List Action}
    (left : execution.remaining = commands.map .command ++ .pause seconds :: back) :
    execution.advance.dispatched = commands ∧ execution.advance.stop = .pause seconds ∧
      execution.advance.execution.remaining = back ∧
      execution.advance.execution.executed = execution.executed + commands.length ∧
      execution.advance.execution.skipped = execution.skipped := by
  unfold remaining at left
  split at left
  · cases commands <;> cases left
  · rename_i unfinished
    have cut : execution.ahead = (commands.map .command ++ [.pause seconds]) ++ back := by
      rw [left, List.append_assoc]
      rfl
    rw [advance_block unfinished left]
    refine ⟨rfl, rfl, ahead_behind .suspended cut, ?_, rfl⟩
    simp only [behind, moved, commandsIn_block_pause]

end Execution

theorem drive_ends (config : Config) {batch : InFlight} {commands : List String}
    (left : batch.execution.remaining = commands.map .command) :
    drive config batch =
      { events := commands.map (.dispatch .console) ++
          closing config batch.fileName batch.deferred
            { executed := batch.execution.executed + commands.length
              skipped := batch.execution.skipped } } := by
  obtain ⟨dispatched, stop⟩ := Execution.advance_ends left
  unfold drive
  simp only [dispatched, stop]

/-- The job that waits for the end of a pause holds the batch from the pause on. -/
theorem drive_pauses (config : Config) {batch : InFlight} {commands : List String}
    {seconds : Double} {back : List Action}
    (left : batch.execution.remaining = commands.map .command ++ .pause seconds :: back) :
    ∃ execution : Execution,
      drive config batch =
        { events := commands.map (.dispatch .console)
          next := some (resumption config.settings.timerMode seconds { batch with execution }) } ∧
      execution.remaining = back ∧
      execution.executed = batch.execution.executed + commands.length ∧
      execution.skipped = batch.execution.skipped := by
  obtain ⟨dispatched, stop, later⟩ := Execution.advance_pauses left
  refine ⟨batch.execution.advance.execution, ?_, later⟩
  unfold drive
  simp only [dispatched, stop]

end ConsoleBatch.Run
