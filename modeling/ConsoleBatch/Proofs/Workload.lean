import ConsoleBatch.Proofs.Accounting
import ConsoleBatch.Proofs.Timetable
import Mathlib.Algebra.BigOperators.Group.Finset.Piecewise

/-! How many jobs are left, and that running them comes to an end.

A job that waits stands for all the jobs that its request still takes. For a file that is not read
yet their number hangs on what will be found in it; once that is given, every job that runs takes
one off the sum, whichever it is. -/

namespace ConsoleBatch.Run

open Batch (Parsed)
open Decimal (Double)
open Files (Folder Tree)
open Lint (Clock)

/-- What the job that reads a file comes upon. -/
structure Forecast where
  found : Except BatchError String
  cancelled : Bool

def actionsIn (security : Security) (content : String) : List Action :=
  (Batch.accountOf security (Batch.numberedLines 1 (Batch.contentLines content))).actions

def Forecast.actions? (security : Security) (forecast : Forecast) : Option (List Action) :=
  match forecast.found with
  | .error _ => none
  | .ok content => if forecast.cancelled then none else some (actionsIn security content)

def Turn.Meets (config : Config) (folder : Folder) (forecast : Forecast) (turn : Turn) : Prop :=
  ∀ fileName known, turn.job = .read fileName known →
    folder.read turn.files fileName = forecast.found ∧
      ∀ content, forecast.found = .ok content →
        (Batch.parse config known content turn.clock).isNone = forecast.cancelled

def pauseJobsIn (mode : TimerMode) (actions : List Action) : Nat :=
  jobsPerPause mode * pausesIn actions

def Forecast.jobsOnceRead (config : Config) (forecast : Forecast) : Nat :=
  match forecast.actions? config.security with
  | some actions => 1 + pauseJobsIn config.settings.timerMode actions
  | none => 1

def Job.ahead (config : Config) (forecast : Forecast) : Job → Nat
  | .read _ _ => 1 + forecast.jobsOnceRead config
  | .reportUnreadable => 1
  | .begin _ none => 1
  | .begin _ (some parsed) => 1 + pauseJobsIn config.settings.timerMode parsed.actions
  | .wait _ batch => 2 + pauseJobsIn config.settings.timerMode batch.execution.remaining
  | .resume batch => 1 + pauseJobsIn config.settings.timerMode batch.execution.remaining
  | .resumeLater _ batch => 1 + pauseJobsIn config.settings.timerMode batch.execution.remaining

def Effect.ahead (config : Config) (forecast : Forecast) (effect : Effect) : Nat :=
  match effect.next with
  | some job => job.ahead config forecast
  | none => 0

variable {config : Config} {folder : Folder} {forecast : Forecast}

theorem ahead_pos (config : Config) (forecast : Forecast) (job : Job) :
    0 < job.ahead config forecast := by
  cases job with
  | «begin» fileName parsed => cases parsed <;> simp only [Job.ahead] <;> omega
  | read | reportUnreadable | wait | resume | resumeLater =>
    simp only [Job.ahead]
    omega

theorem ahead_resumption (config : Config) (forecast : Forecast) (seconds : Double)
    (batch : InFlight) :
    (resumption config.settings.timerMode seconds batch).ahead config forecast =
      jobsPerPause config.settings.timerMode +
        pauseJobsIn config.settings.timerMode batch.execution.remaining := by
  cases mode : config.settings.timerMode <;> simp [resumption, Job.ahead, jobsPerPause, mode]

theorem ahead_drive (config : Config) (forecast : Forecast) (batch : InFlight) :
    (drive config batch).ahead config forecast =
      pauseJobsIn config.settings.timerMode batch.execution.remaining := by
  rcases block_split batch.execution.remaining with
    ⟨commands, left⟩ | ⟨commands, seconds, back, left⟩
  · rw [drive_ends config left, left, pauseJobsIn, pausesIn_block]
    rfl
  · obtain ⟨execution, driven, later, _, _⟩ := drive_pauses config left
    rw [driven, left, pauseJobsIn, pausesIn_block_pause]
    simp only [Effect.ahead]
    rw [ahead_resumption, pauseJobsIn, later, Nat.mul_succ, Nat.add_comm]

theorem actions_parse {known : List String} {content : String} {clock : Clock} {parsed : Parsed}
    (read : Batch.parse config known content clock = some parsed) :
    parsed.actions = actionsIn config.security content :=
  congrArg Batch.Account.actions (Batch.account_parse read)

theorem ahead_afterReading {turn : Turn} (meets : turn.Meets config folder forecast)
    {fileName : String} {known : List String} (reads : turn.job = .read fileName known) :
    (afterReading config fileName known turn.clock (folder.read turn.files fileName)).ahead config
      forecast = forecast.jobsOnceRead config := by
  obtain ⟨same, deadline⟩ := meets fileName known reads
  rw [same]
  unfold Forecast.jobsOnceRead Forecast.actions?
  cases found : forecast.found with
  | error error => rfl
  | ok content =>
    have verdict := deadline content found
    change (Job.begin fileName (Batch.parse config known content turn.clock)).ahead config
      forecast = _
    cases parsing : Batch.parse config known content turn.clock with
    | none =>
      rw [parsing] at verdict
      simp only [← verdict, Option.isNone_none, if_true]
      rfl
    | some parsed =>
      rw [parsing] at verdict
      simp only [← verdict, Option.isNone_some, Bool.false_eq_true, if_false]
      rw [← actions_parse parsing]
      rfl

/-- Every job leaves one job less than it stood for. -/
theorem ahead_runJob {turn : Turn} (meets : turn.Meets config folder forecast) :
    (turn.effect config folder).ahead config forecast + 1 = turn.job.ahead config forecast := by
  obtain ⟨job, files, clock⟩ := turn
  cases job with
  | read fileName known =>
    have next := ahead_afterReading meets rfl
    change (afterReading _ _ _ _ _).ahead config forecast + 1 = 1 + _
    rw [next, Nat.add_comm]
  | reportUnreadable => rfl
  | «begin» fileName parsed =>
    cases parsed with
    | none => rfl
    | some batch =>
      have driven := ahead_drive config forecast (.ofParsed config fileName batch)
      rw [remaining_ofParsed] at driven
      change (drive config (.ofParsed config fileName batch)).ahead config forecast + 1 = _
      rw [driven, Nat.add_comm]
      rfl
  | wait millis batch =>
    change 1 + pauseJobsIn _ _ + 1 = 2 + pauseJobsIn _ _
    omega
  | resume batch | resumeLater ticks batch =>
    change (drive config batch).ahead config forecast + 1 = _
    rw [ahead_drive, Nat.add_comm]
    rfl

namespace Session

def numberedTurn? (session : Session) : Move → Option (Nat × Turn)
  | .run index clock =>
    session.queue[index]?.map fun task =>
      (task.ticket.number, { job := task.job, files := session.files, clock })
  | _ => none

def jobsRun : Session → List Move → List (Nat × Turn)
  | _, [] => []
  | session, move :: rest =>
    (session.numberedTurn? move).toList ++ jobsRun (session.play move) rest

def ahead (forecasts : Nat → Forecast) (session : Session) : Nat :=
  totalOf (fun task => task.job.ahead session.config (forecasts task.ticket.number)) session.queue

def Foreseen (config : Config) (folder : Folder) (forecasts : Nat → Forecast)
    (ran : List (Nat × Turn)) : Prop :=
  ∀ number turn, (number, turn) ∈ ran → turn.Meets config folder (forecasts number)

variable {session : Session} {forecasts : Nat → Forecast}

theorem totalOf_next (size : Task → Nat) (ticket : Ticket) (next : Option Job) :
    totalOf size (next.toList.map fun job => { ticket, job }) =
      match next with
      | some job => size { ticket, job }
      | none => 0 := by
  cases next <;> rfl

theorem ahead_run {index : Nat} {task : Task} (clock : Clock)
    (found : session.queue[index]? = some task)
    (meets : Turn.Meets session.config session.folder (forecasts task.ticket.number)
      { job := task.job, files := session.files, clock }) :
    (session.play (.run index clock)).ahead forecasts + 1 = session.ahead forecasts := by
  have step :
      (session.effectOf clock task).ahead session.config (forecasts task.ticket.number) + 1 =
        task.job.ahead session.config (forecasts task.ticket.number) := ahead_runJob meets
  have taken := totalOf_eraseIdx
    (fun task => task.job.ahead session.config (forecasts task.ticket.number)) found
  have here : (session.play (.run index clock)).ahead forecasts =
      totalOf (fun task => task.job.ahead session.config (forecasts task.ticket.number))
          (session.queue.eraseIdx index) +
        (session.effectOf clock task).ahead session.config (forecasts task.ticket.number) := by
    rw [play_run_some clock found]
    unfold ahead afterTask record
    rw [totalOf_append, totalOf_next]
    rfl
  unfold ahead at here ⊢
  omega

theorem ahead_play {move : Move} (quiet : move.enrolls = false)
    (foreseen : Foreseen session.config session.folder forecasts
      (session.numberedTurn? move).toList) :
    (session.play move).ahead forecasts + (session.numberedTurn? move).toList.length =
      session.ahead forecasts := by
  cases move with
  | enroll requester opening => cases quiet
  | run index clock =>
    cases found : session.queue[index]? with
    | none =>
      rw [play_run_none clock found]
      simp [numberedTurn?, found]
    | some task =>
      have turn : session.numberedTurn? (.run index clock) =
          some (task.ticket.number, { job := task.job, files := session.files, clock }) := by
        simp [numberedTurn?, found]
      rw [turn] at foreseen ⊢
      exact ahead_run clock found (foreseen _ _ (List.mem_singleton_self _))
  | setRegistry names | setFiles files => rfl

theorem ahead_after {moves : List Move} (quiet : ∀ move ∈ moves, move.enrolls = false)
    (foreseen : Foreseen session.config session.folder forecasts (session.jobsRun moves)) :
    (session.after moves).ahead forecasts + (session.jobsRun moves).length =
      session.ahead forecasts := by
  induction moves generalizing session with
  | nil => rfl
  | cons move rest ih =>
    have first := ahead_play (quiet move List.mem_cons_self)
      fun number turn member => foreseen number turn (List.mem_append_left _ member)
    have quiet_rest : ∀ other ∈ rest, other.enrolls = false := fun other member =>
      quiet other (List.mem_cons_of_mem _ member)
    have foreseen_rest : Foreseen (session.play move).config (session.play move).folder forecasts
        ((session.play move).jobsRun rest) := by
      intro number turn member
      rw [config_play, folder_play]
      exact foreseen number turn (List.mem_append_right _ member)
    have onward := ih quiet_rest foreseen_rest
    rw [after_cons, jobsRun, List.length_append]
    omega

/-- Nothing is left exactly when nothing waits. -/
theorem ahead_eq_zero_iff : session.ahead forecasts = 0 ↔ session.queue = [] := by
  unfold ahead
  cases session.queue with
  | nil => exact iff_of_true rfl rfl
  | cons task rest =>
    have positive := ahead_pos session.config (forecasts task.ticket.number) task.job
    rw [totalOf_cons]
    constructor
    · intro nothing
      omega
    · intro nothing
      cases nothing

def unfinished (session : Session) : Finset Nat :=
  (Finset.range session.nextNumber).filter fun number =>
    ∀ event ∈ session.eventsOf number, event.isFinish = false

/-- The jobs that one request still takes. -/
def jobsLeft (forecasts : Nat → Forecast) (session : Session) (number : Nat) : Nat :=
  (session.jobsOf number).foldr
    (fun job others => job.ahead session.config (forecasts number) + others) 0

theorem totalOf_partition (size : Task → Nat) {queue : List Task} {bound : Nat}
    (numbered : ∀ task ∈ queue, task.ticket.number < bound) :
    totalOf size queue =
      ∑ number ∈ Finset.range bound, totalOf size (queue.filter (·.ticket.number = number)) := by
  induction queue with
  | nil => simp [totalOf_nil]
  | cons task rest ih =>
    have here : task.ticket.number ∈ Finset.range bound :=
      Finset.mem_range.mpr (numbered task List.mem_cons_self)
    have each : ∀ number, totalOf size ((task :: rest).filter (·.ticket.number = number)) =
        (if task.ticket.number = number then size task else 0) +
          totalOf size (rest.filter (·.ticket.number = number)) := by
      intro number
      by_cases own : task.ticket.number = number
      · rw [List.filter_cons_of_pos (by simpa using own), totalOf_cons, if_pos own]
      · rw [List.filter_cons_of_neg (by simpa using own), if_neg own, Nat.zero_add]
    simp only [each, Finset.sum_add_distrib, Finset.sum_ite_eq, here, if_true]
    rw [totalOf_cons, ih fun other member => numbered other (List.mem_cons_of_mem _ member)]

theorem jobsLeft_eq (forecasts : Nat → Forecast) (session : Session) (number : Nat) :
    session.jobsLeft forecasts number =
      totalOf (fun task => task.job.ahead session.config (forecasts task.ticket.number))
        (session.queue.filter (·.ticket.number = number)) := by
  unfold jobsLeft jobsOf
  induction session.queue with
  | nil => rfl
  | cons task rest ih =>
    by_cases own : task.ticket.number = number
    · rw [List.filter_cons_of_pos (by simpa using own), totalOf_cons, ← ih, own]
      rfl
    · rw [List.filter_cons_of_neg (by simpa using own), ih]

theorem jobsOf_unfinished (accounted : session.Accounted) {number : Nat}
    (made : number < session.nextNumber) :
    (number ∈ session.unfinished → ∃ job, session.jobsOf number = [job]) ∧
      (number ∉ session.unfinished → session.jobsOf number = []) := by
  obtain ⟨effect, balanced, shown⟩ := accounted number made
  have open_iff : number ∈ session.unfinished ↔
      effect.events.countP Event.isFinish = 0 := by
    rw [unfinished, Finset.mem_filter, Finset.mem_range, shown.events, List.countP_eq_zero]
    simp [made]
  rw [open_iff, shown.jobs]
  rcases Effect.balanced_counts balanced with ⟨ended, owner⟩ | ⟨unended, owner⟩
  · rw [ended]
    refine ⟨?_, fun _ => owner⟩
    intro none_ended
    cases none_ended
  · refine ⟨fun _ => List.length_eq_one_iff.mp owner, ?_⟩
    intro ended
    exact absurd unended ended

theorem ahead_eq_sum (forecasts : Nat → Forecast) (numbered : session.Numbered)
    (accounted : session.Accounted) :
    session.ahead forecasts = ∑ number ∈ session.unfinished, session.jobsLeft forecasts number := by
  rw [ahead, totalOf_partition _ numbered.waiting, unfinished, Finset.sum_filter_of_ne]
  · exact Finset.sum_congr rfl fun number _ => (jobsLeft_eq forecasts session number).symm
  · intro number made some_left
    by_contra ended
    have idle := (jobsOf_unfinished accounted (Finset.mem_range.mp made)).2 (by
      rw [unfinished, Finset.mem_filter]
      exact fun member => ended member.2)
    apply some_left
    rw [jobsLeft, idle]
    rfl

/-- One session leads to another by running jobs, with files and known commands changing in
between but no new request. -/
def RunsInto (later earlier : Session) : Prop :=
  ∃ moves, (∀ move ∈ moves, move.enrolls = false) ∧ earlier.jobsRun moves ≠ [] ∧
    later = earlier.after moves

def effort (session : Session) : Nat × Nat :=
  (session.reads, session.weight)

def Easier : Nat × Nat → Nat × Nat → Prop :=
  Prod.Lex (· < ·) (· < ·)

theorem wellFounded_easier : WellFounded Easier :=
  WellFounded.prod_lex Nat.lt_wfRel.wf Nat.lt_wfRel.wf

theorem easier_trans {first second third : Nat × Nat} (left : Easier first second)
    (right : Easier second third) : Easier first third := by
  unfold Easier at left right ⊢
  rw [Prod.lex_def] at left right ⊢
  omega

theorem effort_play {move : Move} (quiet : move.enrolls = false) :
    session.numberedTurn? move = none ∧ (session.play move).effort = session.effort ∨
      Easier (session.play move).effort session.effort := by
  cases move with
  | enroll requester opening => cases quiet
  | run index clock =>
    cases found : session.queue[index]? with
    | none =>
      rw [play_run_none clock found]
      exact .inl ⟨by simp [numberedTurn?, found], rfl⟩
    | some task =>
      rw [play_run_some clock found]
      exact .inr (Prod.lex_def.mpr (session.afterTask_decreases clock found))
  | setRegistry names | setFiles files => exact .inl ⟨rfl, rfl⟩

theorem effort_after {moves : List Move} (quiet : ∀ move ∈ moves, move.enrolls = false) :
    session.jobsRun moves = [] ∧ (session.after moves).effort = session.effort ∨
      Easier (session.after moves).effort session.effort := by
  induction moves generalizing session with
  | nil => exact .inl ⟨rfl, rfl⟩
  | cons move rest ih =>
    have quiet_rest : ∀ other ∈ rest, other.enrolls = false := fun other member =>
      quiet other (List.mem_cons_of_mem _ member)
    have onward := @ih (session.play move) quiet_rest
    rw [after_cons, jobsRun]
    rcases effort_play (quiet move List.mem_cons_self) with ⟨idle, same⟩ | less
    · rw [idle, ← same]
      exact onward
    · right
      rcases onward with ⟨_, same⟩ | less'
      · rwa [same]
      · exact easier_trans less' less

/-- Whatever the files hold, and whichever job is run next, running jobs comes to an end. -/
theorem wellFounded_runsInto : WellFounded RunsInto := by
  refine Subrelation.wf ?_ (InvImage.wf effort wellFounded_easier)
  rintro later earlier ⟨moves, quiet, ran, rfl⟩
  rcases effort_after quiet with ⟨nothing, _⟩ | less
  · exact absurd nothing ran
  · exact less

theorem runsInto_of_waiting (waiting : session.queue ≠ []) :
    ∃ later, RunsInto later session := by
  obtain ⟨task, rest, queue⟩ := List.exists_cons_of_ne_nil waiting
  refine ⟨_, [.run 0 (.still 0)], ?_, ?_, rfl⟩
  · intro move member
    rw [List.mem_singleton.mp member]
    rfl
  · simp [jobsRun, numberedTurn?, queue]

/-- From every state that a session gets to, running its jobs ends, in whatever order they are run,
and only when none waits. With what each file will be found as given, the number of jobs that run
until then is that of the jobs left of the unfinished requests, one by one; each of these waits with
one job; and then every request has been finished, once. -/
theorem draining_completes (config : Config) (folder : Folder) (files : Tree)
    (registry : List String) (before : List Move) :
    let session := (idle config folder files registry).after before
    Acc RunsInto session ∧
    (session.queue ≠ [] → ∃ later, RunsInto later session) ∧
    (∀ number ∈ session.unfinished, ∃ job, session.jobsOf number = [job]) ∧
    ∀ (forecasts : Nat → Forecast) (moves : List Move), (∀ move ∈ moves, move.enrolls = false) →
      Foreseen config folder forecasts (session.jobsRun moves) →
      let ran := (session.jobsRun moves).length
      let due := ∑ number ∈ session.unfinished, session.jobsLeft forecasts number
      let last := session.after moves
      ran ≤ due ∧ (last.queue = [] ↔ ran = due) ∧
        (last.queue = [] → last.nextNumber = session.nextNumber ∧
          ∀ number < session.nextNumber, (last.eventsOf number).countP Event.isFinish = 1) := by
  intro session
  have first := numbered_idle config folder files registry
  have numbered : session.Numbered := numbered_after first before
  have accounted : session.Accounted := by
    apply accounted_after first
    intro number made
    cases made
  have same_config : session.config = config := config_after _ _
  have same_folder : session.folder = folder := folder_after _ _
  refine ⟨wellFounded_runsInto.apply session, runsInto_of_waiting, ?_, ?_⟩
  · intro number member
    have made := Finset.mem_range.mp (Finset.mem_filter.mp member).1
    exact (jobsOf_unfinished accounted made).1 member
  · intro forecasts moves quiet foreseen ran due last
    have left : last.ahead forecasts + ran = due := by
      rw [← same_config, ← same_folder] at foreseen
      exact (ahead_after quiet foreseen).trans (ahead_eq_sum forecasts numbered accounted)
    have kept : last.nextNumber = session.nextNumber := by
      have enrolled : moves.countP Move.enrolls = 0 :=
        List.countP_eq_zero.mpr fun move member => by simp [quiet move member]
      rw [nextNumber_after, enrolled, Nat.add_zero]
    refine ⟨by omega, ?_, ?_⟩
    · have none_left : last.ahead forecasts = 0 ↔ last.queue = [] := ahead_eq_zero_iff
      rw [← none_left]
      omega
    · intro drained
      refine ⟨kept, ?_⟩
      intro number made
      obtain ⟨effect, balanced, shown⟩ :=
        accounted_after numbered accounted moves number (by rwa [kept])
      have idle : effect.next.toList = [] := by
        rw [← shown.jobs, jobsOf, drained]
        rfl
      rw [shown.events]
      rcases Effect.balanced_counts balanced with ⟨ended, _⟩ | ⟨_, owner⟩
      · exact ended
      · rw [idle] at owner
        cases owner

theorem draining_completes_overlapping :
    let config := unlinted.timed .realtime
    let folder : Folder := ⟨".", ".batch"⟩
    let session := (idle config folder shelf []).after
      [.enroll "first" (.request "greet"), .enroll "second" (.start greeting)]
    let forecasts : Nat → Forecast := fun _ =>
      { found := .ok "  say hi  \n# note\n/STOP now\n!sleep 2\nsay bye\n", cancelled := false }
    let moves : List Move := [.run 1 (.still 0), .run 0 (.still 0), .setFiles {},
      .run 1 (.still 0), .run 1 (.still 0), .run 0 (.still 0), .run 0 (.still 0)]
    (∀ move ∈ moves, move.enrolls = false) ∧
      Foreseen config folder forecasts (session.jobsRun moves) ∧
      session.unfinished = {0, 1} ∧ session.jobsLeft forecasts 0 = 4 ∧
      session.jobsLeft forecasts 1 = 2 ∧ (session.jobsRun moves).length = 6 ∧
      (session.after moves).queue = [] := by
  intro config folder session forecasts moves
  have quiet : ∀ move ∈ moves, move.enrolls = false := by simp [moves, Move.enrolls]
  have seen : (session.jobsRun moves).all (fun ran => ran.2.job.reads == 0 ||
      ran.2.job == .read "greet.batch" [] &&
        (folder.read ran.2.files "greet.batch").toOption == some
          "  say hi  \n# note\n/STOP now\n!sleep 2\nsay bye\n") = true := by
    decide +kernel
  have foreseen : Foreseen config folder forecasts (session.jobsRun moves) := by
    intro number turn member fileName known reads
    have here := List.all_eq_true.mp seen _ member
    rw [reads] at here
    simp only [Job.reads, Nat.reduceBEq, Bool.false_or, Bool.and_eq_true, beq_iff_eq] at here
    obtain ⟨same, found⟩ := here
    cases same
    refine ⟨ok_of_toOption found, ?_⟩
    intro content _
    simp [Batch.parse_eq, config, unlinted, Config.timed, quietConfig, forecasts]
  have two : session.unfinished = {0, 1} := by decide +kernel
  have four : session.jobsLeft forecasts 0 = 4 := by decide +kernel
  have six : (session.jobsRun moves).length = 6 := by decide +kernel
  have rest : session.jobsLeft forecasts 1 = 2 := by decide +kernel
  obtain ⟨_, _, _, runs⟩ := draining_completes config folder shelf []
    [.enroll "first" (.request "greet"), .enroll "second" (.start greeting)]
  obtain ⟨_, drained, _⟩ := runs forecasts moves quiet foreseen
  refine ⟨quiet, foreseen, two, four, rest, six, ?_⟩
  rw [drained, six, two, Finset.sum_pair (by decide), four, rest]

end Session

end ConsoleBatch.Run
