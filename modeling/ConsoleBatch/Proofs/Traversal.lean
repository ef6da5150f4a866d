import ConsoleBatch.Proofs.Blocks
import ConsoleBatch.Run.Progress

/-! Advancing an execution again and again.

The steps are cut at their pauses. Each call takes one block and the pause behind it, the call after
the last pause takes what is left, and no later call does anything. The count of commands agrees
with the cursor after every call. -/

namespace ConsoleBatch.Run

open Decimal (Double)

structure Cuts where
  blocks : List (List String × Double)
  last : List String
  deriving DecidableEq

def blockSteps (block : List String × Double) : List Action :=
  block.1.map .command ++ [.pause block.2]

namespace Cuts

def steps (cuts : Cuts) : List Action :=
  cuts.blocks.flatMap blockSteps ++ cuts.last.map .command

def withCommand (text : String) : Cuts → Cuts
  | ⟨[], last⟩ => ⟨[], text :: last⟩
  | ⟨(commands, seconds) :: blocks, last⟩ => ⟨(text :: commands, seconds) :: blocks, last⟩

def withPause (seconds : Double) (cuts : Cuts) : Cuts :=
  { cuts with blocks := ([], seconds) :: cuts.blocks }

def ofSteps : List Action → Cuts
  | [] => ⟨[], []⟩
  | .command text :: rest => (ofSteps rest).withCommand text
  | .pause seconds :: rest => (ofSteps rest).withPause seconds

theorem steps_withCommand (text : String) (cuts : Cuts) :
    (cuts.withCommand text).steps = .command text :: cuts.steps := by
  obtain ⟨blocks, last⟩ := cuts
  cases blocks <;> rfl

theorem steps_withPause (seconds : Double) (cuts : Cuts) :
    (cuts.withPause seconds).steps = .pause seconds :: cuts.steps := rfl

theorem steps_cons (block : List String × Double) (blocks : List (List String × Double))
    (last : List String) :
    (Cuts.mk (block :: blocks) last).steps = blockSteps block ++ (Cuts.mk blocks last).steps := by
  simp only [steps, List.flatMap_cons, List.append_assoc]

theorem steps_ofSteps (actions : List Action) : (ofSteps actions).steps = actions := by
  induction actions with
  | nil => rfl
  | cons action rest ih =>
    cases action with
    | command text => rw [ofSteps, steps_withCommand, ih]
    | pause seconds => rw [ofSteps, steps_withPause, ih]

theorem ofSteps_commands (commands : List String) :
    ofSteps (commands.map .command) = ⟨[], commands⟩ := by
  induction commands with
  | nil => rfl
  | cons text rest ih =>
    change (ofSteps (rest.map .command)).withCommand text = _
    rw [ih]
    rfl

theorem ofSteps_block (block : List String × Double) (back : List Action) :
    ofSteps (blockSteps block ++ back) = ⟨block :: (ofSteps back).blocks, (ofSteps back).last⟩ := by
  obtain ⟨commands, seconds⟩ := block
  induction commands with
  | nil => rfl
  | cons text rest ih =>
    change (ofSteps (blockSteps (rest, seconds) ++ back)).withCommand text = _
    rw [ih]
    rfl

theorem ofSteps_steps (cuts : Cuts) : ofSteps cuts.steps = cuts := by
  obtain ⟨blocks, last⟩ := cuts
  induction blocks with
  | nil => exact ofSteps_commands last
  | cons block blocks ih => rw [steps_cons, ofSteps_block, ih]

theorem steps_eq_iff {cuts : Cuts} {actions : List Action} :
    cuts.steps = actions ↔ cuts = ofSteps actions := by
  constructor
  · rintro rfl
    exact (ofSteps_steps cuts).symm
  · rintro rfl
    exact steps_ofSteps actions

end Cuts

theorem pausesIn_blocks (blocks : List (List String × Double)) :
    pausesIn (blocks.flatMap blockSteps) = blocks.length := by
  induction blocks with
  | nil => rfl
  | cons block blocks ih =>
    have here : pausesIn (blockSteps block) = 1 := by
      rw [blockSteps, pausesIn_append, pausesIn_block, pausesIn_pause]
      rfl
    rw [List.flatMap_cons, pausesIn_append, here, ih, List.length_cons, Nat.add_comm]

theorem Cuts.length_blocks (cuts : Cuts) : cuts.blocks.length = pausesIn cuts.steps := by
  rw [Cuts.steps, pausesIn_append, pausesIn_block, pausesIn_blocks]
  rfl

namespace Execution

/-- What a call to advance an execution comes to, the first of all calls having the number zero. -/
def call (execution : Execution) : Nat → Advance
  | 0 => execution.advance
  | number + 1 => execution.advance.execution.call number

theorem call_after (execution : Execution) (number later : Nat) :
    execution.call (number + 1 + later) = (execution.call number).execution.call later := by
  induction number generalizing execution with
  | zero =>
    rw [Nat.zero_add, Nat.add_comm]
    rfl
  | succ number ih =>
    rw [Nat.add_right_comm]
    exact ih execution.advance.execution

theorem behind_behind (execution : Execution) (front next : List Action)
    (state state' : RunState) :
    (execution.behind front state).behind next state' = execution.behind (front ++ next) state' := by
  simp only [behind, moved, List.length_append, commandsIn_append, Nat.add_assoc]

theorem unfinished_behind (execution : Execution) (front : List Action) :
    (execution.behind front .suspended).state ≠ .finished := by
  intro same
  cases same

variable {execution : Execution}

theorem advance_past {block : List String × Double} {back : List Action}
    (unfinished : execution.state ≠ .finished) (left : execution.ahead = blockSteps block ++ back) :
    execution.advance =
      { dispatched := block.1
        stop := .pause block.2
        execution := execution.behind (blockSteps block) .suspended } := by
  rw [blockSteps, List.append_assoc] at left
  exact advance_block unfinished left

theorem call_block {before after : List (List String × Double)} {block : List String × Double}
    {last : List String} (unfinished : execution.state ≠ .finished)
    (left : execution.ahead = (Cuts.mk (before ++ block :: after) last).steps) :
    execution.call before.length =
      { dispatched := block.1
        stop := .pause block.2
        execution := execution.behind ((before ++ [block]).flatMap blockSteps) .suspended } := by
  induction before generalizing execution with
  | nil =>
    rw [List.nil_append, Cuts.steps_cons] at left
    rw [List.nil_append, List.flatMap_singleton]
    exact advance_past unfinished left
  | cons first before ih =>
    rw [List.cons_append, Cuts.steps_cons] at left
    have later := ih (unfinished_behind _ _) (ahead_behind .suspended left)
    rw [behind_behind] at later
    rw [List.length_cons, call, advance_past unfinished left]
    exact later

theorem call_of_block {cuts : Cuts} {number : Nat} {commands : List String} {seconds : Double}
    (unfinished : execution.state ≠ .finished) (left : execution.ahead = cuts.steps)
    (here : cuts.blocks[number]? = some (commands, seconds)) :
    ∃ front back, cuts.steps = front ++ .pause seconds :: back ∧ pausesIn front = number ∧
      execution.call number =
        { dispatched := commands
          stop := .pause seconds
          execution := execution.behind (front ++ [.pause seconds]) .suspended } := by
  obtain ⟨blocks, last⟩ := cuts
  obtain ⟨bound, block⟩ := List.getElem?_eq_some_iff.mp here
  have number_before : (blocks.take number).length = number :=
    List.length_take_of_le (Nat.le_of_lt bound)
  have split : blocks = blocks.take number ++ (commands, seconds) :: blocks.drop (number + 1) := by
    rw [← block, List.getElem_cons_drop, List.take_append_drop]
  generalize blocks.take number = before, blocks.drop (number + 1) = after
    at number_before split
  subst split
  have called := call_block unfinished left
  rw [number_before, List.flatMap_append, List.flatMap_singleton, blockSteps,
    ← List.append_assoc] at called
  refine ⟨_, (Cuts.mk after last).steps, ?_, ?_, called⟩
  · simp only [Cuts.steps, blockSteps, List.flatMap_append, List.flatMap_cons, List.append_assoc,
      List.cons_append, List.nil_append]
  · rw [pausesIn_append, pausesIn_block, pausesIn_blocks]
    exact number_before

theorem call_last {cuts : Cuts} (unfinished : execution.state ≠ .finished)
    (left : execution.ahead = cuts.steps) :
    execution.call cuts.blocks.length =
      { dispatched := cuts.last
        stop := .finished (execution.behind cuts.steps .finished).summary
        execution := execution.behind cuts.steps .finished } := by
  obtain ⟨blocks, last⟩ := cuts
  induction blocks generalizing execution with
  | nil => exact advance_last unfinished left
  | cons block blocks ih =>
    rw [Cuts.steps_cons] at left ⊢
    have later := ih (unfinished_behind _ _) (ahead_behind .suspended left)
    rw [behind_behind] at later
    rw [List.length_cons, call, advance_past unfinished left]
    exact later

theorem call_finished (finished : execution.state = .finished) (number : Nat) :
    execution.call number =
      { dispatched := [], stop := .finished execution.summary, execution } := by
  induction number with
  | zero => exact advance_finished finished
  | succ number ih =>
    rw [call, advance_finished finished]
    exact ih

structure Counted (actions : List Action) (executed skipped : Nat) (execution : Execution) :
    Prop where
  same_actions : execution.actions = actions
  same_skipped : execution.skipped = skipped
  count : execution.executed = executed + (actions.take execution.cursor).countP Action.isCommand

theorem length_commandsIn (actions : List Action) :
    (commandsIn actions).length = actions.countP Action.isCommand := by
  induction actions with
  | nil => rfl
  | cons action rest ih =>
    cases action with
    | command text =>
      rw [List.countP_cons_of_pos rfl, ← ih]
      rfl
    | pause seconds =>
      rw [List.countP_cons_of_neg (by simp [Action.isCommand]), ← ih]
      rfl

theorem counted_behind {actions front back : List Action} {executed skipped : Nat}
    (counted : Counted actions executed skipped execution)
    (left : execution.ahead = front ++ back) (state : RunState) :
    Counted actions executed skipped (execution.behind front state) := by
  have passed : actions.take (execution.cursor + front.length) =
      actions.take execution.cursor ++ front := by
    rw [List.take_add, ← counted.same_actions]
    change _ ++ execution.ahead.take front.length = _
    rw [left, List.take_left]
  refine ⟨counted.same_actions, counted.same_skipped, ?_⟩
  calc
    execution.executed + (commandsIn front).length =
        executed + ((actions.take execution.cursor).countP Action.isCommand +
          front.countP Action.isCommand) := by
      rw [counted.count, length_commandsIn, Nat.add_assoc]
    _ = executed + (actions.take (execution.cursor + front.length)).countP Action.isCommand := by
      rw [passed, List.countP_append]

theorem counted_advance {actions : List Action} {executed skipped : Nat}
    (counted : Counted actions executed skipped execution) :
    Counted actions executed skipped execution.advance.execution := by
  by_cases finished : execution.state = .finished
  · rw [advance_finished finished]
    exact counted
  · rcases block_split execution.ahead with ⟨commands, left⟩ | ⟨commands, seconds, back, left⟩
    · rw [advance_last finished left]
      exact counted_behind counted (left.trans (List.append_nil _).symm) .finished
    · rw [advance_block finished left]
      rw [← List.singleton_append, ← List.append_assoc] at left
      exact counted_behind counted left .suspended

theorem counted_call {actions : List Action} {executed skipped : Nat}
    (counted : Counted actions executed skipped execution) (number : Nat) :
    Counted actions executed skipped (execution.call number).execution := by
  induction number generalizing execution with
  | zero => exact counted_advance counted
  | succ number ih => exact ih (counted_advance counted)

/-- Call after call, an execution dispatches the blocks of its steps in their order and stops right
behind each pause; the call after the last pause finishes it, and later calls do nothing. After
every call, as many commands went out as there are in front of the cursor. -/
theorem calls_traverse (actions : List Action) (executed skipped : Nat) :
    let start : Execution := { actions, executed, skipped }
    let cuts := Cuts.ofSteps actions
    let summary : Summary := { executed := executed + actions.countP Action.isCommand, skipped }
    let ending := start.call (pausesIn actions)
    (∀ other : Cuts, other.steps = actions ↔ other = cuts) ∧
    cuts.blocks.length = pausesIn actions ∧
    (∀ number commands seconds, cuts.blocks[number]? = some (commands, seconds) →
      (start.call number).dispatched = commands ∧ (start.call number).stop = .pause seconds ∧
        (start.call number).execution.state = .suspended ∧
        ∃ front back, actions = front ++ .pause seconds :: back ∧ pausesIn front = number ∧
          (start.call number).execution.cursor = front.length + 1) ∧
    (ending.dispatched = cuts.last ∧ ending.stop = .finished summary ∧
      ending.execution.state = .finished ∧ ending.execution.cursor = actions.length) ∧
    (∀ later, start.call (pausesIn actions + 1 + later) =
      { dispatched := [], stop := .finished summary, execution := ending.execution }) ∧
    (∀ number, Counted actions executed skipped (start.call number).execution) := by
  intro start cuts summary ending
  have whole : start.ahead = cuts.steps := (Cuts.steps_ofSteps actions).symm
  have unfinished : start.state ≠ .finished := by
    intro same
    cases same
  have counted : Counted actions executed skipped start := ⟨rfl, rfl, rfl⟩
  have number : cuts.blocks.length = pausesIn actions := by
    rw [cuts.length_blocks, Cuts.steps_ofSteps]
  have last : ending = _ := number ▸ call_last unfinished whole
  rw [Cuts.steps_ofSteps] at last
  have total : (start.behind actions .finished).summary = summary := by
    simp only [start, summary, Execution.summary, behind, moved, length_commandsIn]
  refine ⟨fun other => Cuts.steps_eq_iff, number, ?_, ?_, ?_, counted_call counted⟩
  · intro number commands seconds here
    obtain ⟨front, back, pieces, before, called⟩ := call_of_block unfinished whole here
    rw [called]
    refine ⟨rfl, rfl, rfl, front, back, ?_, before, ?_⟩
    · rw [← pieces]
      exact (Cuts.steps_ofSteps actions).symm
    · simp [behind, moved, start]
  · rw [last, total]
    exact ⟨rfl, rfl, rfl, Nat.zero_add actions.length⟩
  · intro later
    have finished : ending.execution.state = .finished := by rw [last]; rfl
    rw [call_after, call_finished finished, ← total, last]

def rests : List Action :=
  [.pause .zero, .command "say hi", .pause ⟨0x4004000000000000⟩, .pause .zero, .command "say bye"]

theorem calls_traverse_rests :
    let start : Execution := { actions := rests, executed := 4, skipped := 2 }
    (Cuts.ofSteps rests).blocks[1]? = some (["say hi"], ⟨0x4004000000000000⟩) ∧
      (start.call 1).dispatched = ["say hi"] ∧
      (start.call 1).stop = .pause ⟨0x4004000000000000⟩ ∧
      (start.call 3).dispatched = ["say bye"] ∧
      (start.call 3).stop = .finished { executed := 6, skipped := 2 } ∧
      start.call 5 =
        { dispatched := []
          stop := .finished { executed := 6, skipped := 2 }
          execution := (start.call 3).execution } := by
  intro start
  obtain ⟨_, _, pauses, ⟨dispatched, stop, _⟩, afterwards, _⟩ := calls_traverse rests 4 2
  have here : (Cuts.ofSteps rests).blocks[1]? = some (["say hi"], ⟨0x4004000000000000⟩) := rfl
  obtain ⟨sent, paused, _⟩ := pauses _ _ _ here
  exact ⟨here, sent, paused, dispatched, stop, afterwards 1⟩

end Execution

end ConsoleBatch.Run
