import ConsoleBatch.Proofs.Draining
import ConsoleBatch.Proofs.Fidelity

/-! The same batch in ticks and in real time.

A pause takes one delayed job in ticks, and in real time a job of the worker with a primary job
behind it. Where a run stands is said by the number of its jobs that have run: at a pause, with
some of its jobs behind, or at the end. What it has shown by then is the same in both modes. -/

namespace ConsoleBatch

def Config.timed (config : Config) (mode : TimerMode) : Config :=
  { config with settings := { config.settings with timerMode := mode } }

namespace Run

open Decimal (Double)
open Files (Folder Tree)

def jobsPerPause : TimerMode → Nat
  | .ticks => 1
  | .realtime => 2

def dispatches (actions : List Action) : List Event :=
  (commandsIn actions).map (.dispatch .console)

def wholeRun (config : Config) (batch : InFlight) : List Event :=
  dispatches batch.execution.remaining ++ closing config batch.fileName batch.deferred
    { executed := batch.execution.executed + (commandsIn batch.execution.remaining).length
      skipped := batch.execution.skipped }

/-- What has come of a batch after a number of its jobs. The batch that waits in the job of a pause
goes on behind this pause. -/
inductive Stands (config : Config) (batch : InFlight) : Nat → Effect → Prop
  | pausing {front back : List Action} {seconds : Double} {next : InFlight} {ran waiting : List Job}
      {job : Job} (cut : batch.execution.remaining = front ++ .pause seconds :: back)
      (goes_on : next.execution.remaining = back)
      (jobs : pauseJobs config.settings.timerMode seconds next = ran ++ job :: waiting) :
      Stands config batch
        (jobsPerPause config.settings.timerMode * pausesIn front + ran.length)
        { events := dispatches front, next := some job }
  | ended :
      Stands config batch
        (jobsPerPause config.settings.timerMode * pausesIn batch.execution.remaining)
        { events := wholeRun config batch }

theorem pausesIn_block_pause (commands : List String) (seconds : Double) (rest : List Action) :
    pausesIn (commands.map .command ++ .pause seconds :: rest) = pausesIn rest + 1 := by
  rw [pausesIn_append, pausesIn_block, pausesIn_pause, Nat.zero_add]

theorem length_pauseJobs (mode : TimerMode) (seconds : Double) (batch : InFlight) :
    (pauseJobs mode seconds batch).length = jobsPerPause mode := by
  cases mode <;> rfl

theorem dispatches_block_pause (commands : List String) (seconds : Double) (rest : List Action) :
    dispatches (commands.map .command ++ .pause seconds :: rest) =
      commands.map (.dispatch .console) ++ dispatches rest := by
  unfold dispatches
  rw [commandsIn_append, commandsIn_block, commandsIn_pause, List.map_append]

theorem pause_unique {front front' back back' : List Action} {seconds seconds' : Double}
    (same : front ++ .pause seconds :: back = front' ++ .pause seconds' :: back')
    (number : pausesIn front = pausesIn front') :
    front = front' ∧ seconds = seconds' ∧ back = back' := by
  induction front generalizing front' with
  | nil =>
    cases front' with
    | nil =>
      obtain ⟨pause, rest⟩ := List.cons.inj same
      cases pause
      exact ⟨rfl, rfl, rest⟩
    | cons first inner =>
      obtain ⟨rfl, _⟩ := List.cons.inj same
      rw [pausesIn_pause] at number
      cases number
  | cons first inner ih =>
    cases front' with
    | nil =>
      obtain ⟨rfl, _⟩ := List.cons.inj same
      rw [pausesIn_pause] at number
      cases number
    | cons first' inner' =>
      obtain ⟨rfl, tail⟩ := List.cons.inj same
      have fewer : pausesIn inner = pausesIn inner' := by
        simp only [pausesIn, List.countP_cons] at number
        exact Nat.add_right_cancel number
      obtain ⟨rfl, rest⟩ := ih tail fewer
      exact ⟨rfl, rest⟩

namespace Stands

variable {config : Config} {batch next : InFlight} {commands : List String} {seconds : Double}
  {back : List Action} {count : Nat} {effect : Effect}

/-- Where the batch behind a pause stands, the batch itself stands the jobs of the pause later. -/
theorem behind_pause (stands : Stands config next count effect)
    (left : batch.execution.remaining = commands.map .command ++ .pause seconds :: back)
    (same_name : next.fileName = batch.fileName) (same_deferred : next.deferred = batch.deferred)
    (later : next.execution.remaining = back)
    (executed : next.execution.executed = batch.execution.executed + commands.length)
    (skipped : next.execution.skipped = batch.execution.skipped) :
    Stands config batch (jobsPerPause config.settings.timerMode + count)
      (Effect.followedBy { events := commands.map (.dispatch .console) } effect) := by
  have one_more : ∀ pauses, jobsPerPause config.settings.timerMode +
      jobsPerPause config.settings.timerMode * pauses =
        jobsPerPause config.settings.timerMode * (pauses + 1) := by
    intro pauses
    rw [Nat.mul_succ, Nat.add_comm]
  cases stands with
  | @pausing front rest length after ran waiting job cut goes_on jobs =>
    have whole : batch.execution.remaining =
        (commands.map .command ++ .pause seconds :: front) ++ .pause length :: rest := by
      rw [left, ← later, cut, List.append_assoc]
      rfl
    have stands : Stands config batch _ _ := .pausing whole goes_on jobs
    rw [pausesIn_block_pause, dispatches_block_pause, ← one_more, Nat.add_assoc] at stands
    exact stands
  | ended =>
    have count : pausesIn batch.execution.remaining = pausesIn next.execution.remaining + 1 := by
      rw [left, later, pausesIn_block_pause]
    have events : wholeRun config batch =
        commands.map (.dispatch .console) ++ wholeRun config next := by
      have total : (commandsIn batch.execution.remaining).length =
          commands.length + (commandsIn next.execution.remaining).length := by
        rw [left, later, commandsIn_append, commandsIn_block, commandsIn_pause, List.length_append]
      unfold wholeRun
      rw [total, same_name, same_deferred, executed, skipped, ← Nat.add_assoc, left, later,
        dispatches_block_pause, List.append_assoc]
    have stands : Stands config batch _ _ := .ended
    rw [count, events, ← one_more] at stands
    exact stands

end Stands

variable {config : Config} {folder : Folder}

/-- A batch stands where the number of its jobs says, whenever and with whatever else they ran. -/
theorem stands_drive {batch : InFlight} {last : Effect} {turns : List Turn}
    (course : Course config folder (drive config batch) turns last) :
    Stands config batch turns.length last := by
  rcases block_split batch.execution.remaining with
    ⟨commands, left⟩ | ⟨commands, seconds, back, left⟩
  · rw [drive_ends config left] at course
    obtain ⟨rfl, rfl⟩ := course.ended rfl
    have stands : Stands config batch _ _ := .ended
    unfold wholeRun dispatches at stands
    rw [left, pausesIn_block, commandsIn_block] at stands
    exact stands
  · obtain ⟨execution, driven, later, executed, skipped⟩ := drive_pauses config left
    rw [driven] at course
    rcases course_pause rfl course with
      ⟨job, waiting, jobs, rfl⟩ | ⟨chain, more, own, rfl, ran, onward, rfl⟩
    · have stands : Stands config batch _ _ := .pausing left later jobs
      unfold dispatches at stands
      rw [pausesIn_block, commandsIn_block, List.length_map, Nat.mul_zero, Nat.zero_add] at stands
      exact stands
    · -- The batch behind the pause has fewer steps left.
      have shorter : execution.remaining.length < batch.execution.remaining.length := by
        rw [later, left, List.length_append, List.length_cons]
        omega
      have jobs : chain.length = jobsPerPause config.settings.timerMode := by
        rw [← List.length_map Turn.job, ran, length_pauseJobs]
      rw [List.length_append, jobs]
      exact (stands_drive onward).behind_pause left rfl rfl later executed skipped
termination_by batch.execution.remaining.length

theorem jobsPerPause_unique {mode : TimerMode} {pauses pauses' behind behind' : Nat}
    (same : jobsPerPause mode * pauses + behind = jobsPerPause mode * pauses' + behind')
    (less : behind < jobsPerPause mode) (less' : behind' < jobsPerPause mode) :
    pauses = pauses' ∧ behind = behind' := by
  cases mode <;> simp only [jobsPerPause] at same less less' <;> omega

namespace Stands

variable {config : Config} {batch : InFlight} {front back : List Action} {seconds : Double}
  {count behind : Nat} {effect : Effect}

theorem behind_lt {mode : TimerMode} {next : InFlight} {ran waiting : List Job} {job : Job}
    (jobs : pauseJobs mode seconds next = ran ++ job :: waiting) :
    ran.length < jobsPerPause mode := by
  rw [← length_pauseJobs mode seconds next, jobs, List.length_append, List.length_cons]
  omega

theorem pausesIn_cut {actions : List Action} (cut : actions = front ++ .pause seconds :: back) :
    pausesIn front < pausesIn actions := by
  rw [cut, pausesIn_append, pausesIn_pause]
  omega

theorem at_pause (stands : Stands config batch count effect)
    (cut : batch.execution.remaining = front ++ .pause seconds :: back)
    (less : behind < jobsPerPause config.settings.timerMode)
    (here : count = jobsPerPause config.settings.timerMode * pausesIn front + behind) :
    effect.events = dispatches front ∧ ∃ next : InFlight, next.execution.remaining = back ∧
      effect.next = (pauseJobs config.settings.timerMode seconds next)[behind]? := by
  cases stands with
  | @pausing front' _ _ next ran waiting job cut' goes_on jobs =>
    obtain ⟨number, place⟩ := jobsPerPause_unique here (behind_lt jobs) less
    obtain ⟨rfl, rfl, rfl⟩ := pause_unique (cut'.symm.trans cut) number
    refine ⟨rfl, next, goes_on, ?_⟩
    rw [jobs, ← place, List.getElem?_append_right (Nat.le_refl _), Nat.sub_self]
    rfl
  | ended =>
    have positive : 0 < jobsPerPause config.settings.timerMode := Nat.zero_lt_of_lt less
    have number := (jobsPerPause_unique ((Nat.add_zero _).trans here) positive less).1
    have fewer := pausesIn_cut cut
    omega

theorem count_eq_iff (stands : Stands config batch count effect) :
    effect.next = none ↔
      count = jobsPerPause config.settings.timerMode * pausesIn batch.execution.remaining := by
  cases stands with
  | pausing cut goes_on jobs =>
    constructor
    · intro none_due
      cases none_due
    · intro same
      have fewer := pausesIn_cut cut
      have less := behind_lt jobs
      have number := (jobsPerPause_unique (same.trans (Nat.add_zero _).symm) less
        (Nat.zero_lt_of_lt less)).1
      omega
  | ended => exact iff_of_true rfl rfl

theorem count_le (stands : Stands config batch count effect) :
    count ≤ jobsPerPause config.settings.timerMode * pausesIn batch.execution.remaining := by
  cases stands with
  | @pausing front _ _ _ ran _ _ cut goes_on jobs =>
    have fewer : pausesIn front + 1 ≤ pausesIn batch.execution.remaining := pausesIn_cut cut
    have less := behind_lt jobs
    calc
      jobsPerPause config.settings.timerMode * pausesIn front + ran.length ≤
          jobsPerPause config.settings.timerMode * (pausesIn front + 1) := by
        rw [Nat.mul_succ]
        omega
      _ ≤ jobsPerPause config.settings.timerMode * pausesIn batch.execution.remaining :=
        Nat.mul_le_mul_left _ fewer
  | ended => exact Nat.le_refl _

theorem events_at_end (stands : Stands config batch count effect) (none_due : effect.next = none) :
    effect.events = wholeRun config batch := by
  cases stands with
  | pausing => cases none_due
  | ended => rfl

end Stands

namespace Session

theorem stands_started (config : Config) (folder : Folder) (files : Tree) (registry : List String)
    (before later : List Move) (requester : String) (batch : InFlight) :
    let opened := (idle config folder files registry).after before
    let started := opened.play (.enroll requester (.start batch))
    ∃ last, Stands config batch (started.turns opened.nextNumber later).length last ∧
      (started.after later).Shows opened.nextNumber last := by
  intro opened started
  have numbered : opened.Numbered :=
    numbered_after (numbered_idle config folder files registry) before
  have same_config : opened.config = config := config_after _ _
  obtain ⟨last, course, shown⟩ := shows_enrolled numbered requester (.start batch) later
  have stands : Stands opened.config batch _ last := stands_drive course
  rw [same_config] at stands
  exact ⟨last, stands, shown⟩

theorem runs_out (session : Session) (number : Nat) :
    ∃ more, (session.after more).jobsOf number = [] := by
  obtain ⟨moves, _, reached⟩ := session.drain_reached (.still 0)
  refine ⟨moves, ?_⟩
  rw [← reached, jobsOf, queue_drain]
  rfl

/-- The same batch, started in a session that pauses in ticks and in one that pauses in real time,
with anything before and in between. At each pause of the batch both have shown the same; the one
has a delayed job waiting, the other a job of the worker and, after that, a primary job. Both end
when the jobs of all pauses have run, and have shown the same then. -/
theorem timer_modes_agree (config : Config) (folder folder' : Folder) (files files' : Tree)
    (registry registry' : List String) (before before' later later' : List Move)
    (requester requester' : String) (batch : InFlight) :
    let opened := (idle (config.timed .ticks) folder files registry).after before
    let opened' := (idle (config.timed .realtime) folder' files' registry').after before'
    let started := opened.play (.enroll requester (.start batch))
    let started' := opened'.play (.enroll requester' (.start batch))
    let ran := (started.turns opened.nextNumber later).length
    let ran' := (started'.turns opened'.nextNumber later').length
    let events := (started.after later).eventsOf opened.nextNumber
    let events' := (started'.after later').eventsOf opened'.nextNumber
    let waiting := (started.after later).jobsOf opened.nextNumber
    let waiting' := (started'.after later').jobsOf opened'.nextNumber
    (waiting = [] → waiting' = [] → events = events') ∧
    (∀ front seconds back, batch.execution.remaining = front ++ .pause seconds :: back →
      (ran = pausesIn front → events = dispatches front ∧
        ∃ next, waiting = [.resumeLater (pauseTicks seconds) next]) ∧
      (ran' = 2 * pausesIn front → events' = dispatches front ∧
        ∃ next, waiting' = [.wait (pauseMillis seconds) next]) ∧
      (ran' = 2 * pausesIn front + 1 → events' = dispatches front ∧
        ∃ next, waiting' = [.resume next])) ∧
    ran ≤ pausesIn batch.execution.remaining ∧
    (waiting = [] ↔ ran = pausesIn batch.execution.remaining) ∧
    ran' ≤ 2 * pausesIn batch.execution.remaining ∧
    (waiting' = [] ↔ ran' = 2 * pausesIn batch.execution.remaining) ∧
    (∃ more, ((started.after later).after more).jobsOf opened.nextNumber = []) ∧
    ∃ more, ((started'.after later').after more).jobsOf opened'.nextNumber = [] := by
  intro opened opened' started started' ran ran' events events' waiting waiting'
  obtain ⟨last, stands, shown⟩ :=
    stands_started (config.timed .ticks) folder files registry before later requester batch
  obtain ⟨last', stands', shown'⟩ := stands_started (config.timed .realtime) folder' files'
    registry' before' later' requester' batch
  have told : events = last.events := shown.events
  have told' : events' = last'.events := shown'.events
  have jobs : waiting = last.next.toList := shown.jobs
  have jobs' : waiting' = last'.next.toList := shown'.jobs
  have ended : waiting = [] ↔ last.next = none := by rw [jobs, Option.toList_eq_nil_iff]
  have ended' : waiting' = [] ↔ last'.next = none := by rw [jobs', Option.toList_eq_nil_iff]
  refine ⟨?_, ?_, ?_, ?_, stands'.count_le, ?_, runs_out _ _, runs_out _ _⟩
  · intro rest rest'
    calc
      events = wholeRun (config.timed .ticks) batch := by
        rw [told, stands.events_at_end (ended.mp rest)]
      _ = wholeRun (config.timed .realtime) batch := rfl
      _ = events' := by rw [told', stands'.events_at_end (ended'.mp rest')]
  · intro front seconds back cut
    rw [told, told', jobs, jobs']
    refine ⟨?_, ?_, ?_⟩
    · intro here
      obtain ⟨shown, next, _, due⟩ :=
        stands.at_pause cut Nat.zero_lt_one (here.trans (Nat.one_mul _).symm)
      exact ⟨shown, next, by rw [due]; rfl⟩
    · intro here
      obtain ⟨shown, next, _, due⟩ := stands'.at_pause cut Nat.zero_lt_two here
      exact ⟨shown, next, by rw [due]; rfl⟩
    · intro here
      obtain ⟨shown, next, _, due⟩ := stands'.at_pause cut Nat.one_lt_two here
      exact ⟨shown, next, by rw [due]; rfl⟩
  · exact Nat.le_trans stands.count_le (Nat.le_of_eq (Nat.one_mul _))
  · rw [ended, stands.count_eq_iff]
    exact iff_of_eq (congrArg _ (Nat.one_mul _))
  · rw [ended', stands'.count_eq_iff]
    rfl

theorem timer_modes_agree_greeting :
    let started := (idle (quietConfig.timed .ticks) ⟨"batches", ".batch"⟩ {} []).play
      (.enroll "first" (.start greeting))
    let started' := (idle (quietConfig.timed .realtime) ⟨"batches", ".batch"⟩ {} []).play
      (.enroll "second" (.start greeting))
    let run := started.after [.run 0 (.still 0)]
    let slept := started'.after [.run 0 (.still 0)]
    let run' := slept.after [.setFiles {}, .run 0 (.still 0)]
    (∃ next, started.jobsOf 0 = [.resumeLater 0 next]) ∧
      (∃ next, slept.jobsOf 0 = [.resume next]) ∧
      slept.eventsOf 0 = [.dispatch .console "say hello"] ∧
      run.jobsOf 0 = [] ∧ run'.jobsOf 0 = [] ∧ run.eventsOf 0 = run'.eventsOf 0 := by
  intro started started' run slept run'
  have cut : greeting.execution.remaining =
      [.command "say hello"] ++ .pause .zero :: [.command "say bye"] := rfl
  obtain ⟨_, pauses, _⟩ := timer_modes_agree quietConfig ⟨"batches", ".batch"⟩
    ⟨"batches", ".batch"⟩ {} {} [] [] [] [] [] [.run 0 (.still 0)] "first" "second" greeting
  obtain ⟨ticking, _, sleeping⟩ := pauses _ _ _ cut
  obtain ⟨shown, resumed⟩ := sleeping rfl
  obtain ⟨agree, _⟩ := timer_modes_agree quietConfig ⟨"batches", ".batch"⟩
    ⟨"batches", ".batch"⟩ {} {} [] [] [] [] [.run 0 (.still 0)]
    [.run 0 (.still 0), .setFiles {}, .run 0 (.still 0)] "first" "second" greeting
  exact ⟨(ticking rfl).2, resumed, shown, rfl, rfl, agree rfl rfl⟩

end Session

end Run

end ConsoleBatch
