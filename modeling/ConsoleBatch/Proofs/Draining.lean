import ConsoleBatch.Proofs.Ownership

/-! Running all jobs that wait, the oldest first.

To drain a session is one run of moves among others, after which nothing waits. So what holds after
any moves holds of a drained session, and no request in it owns a job. -/

namespace ConsoleBatch.Run

open Files (Folder Tree)
open Lint (Clock)

/-- Jobs are run by one clock, and nothing else happens. -/
def OnlyRuns (clock : Clock) (moves : List Move) : Prop :=
  ∀ move ∈ moves, ∃ index, move = .run index clock

theorem countP_enrolls_onlyRuns {clock : Clock} {moves : List Move} (only : OnlyRuns clock moves) :
    moves.countP Move.enrolls = 0 := by
  apply List.countP_eq_zero.mpr
  intro move member
  obtain ⟨index, rfl⟩ := only move member
  simp [Move.enrolls]

namespace Session

def Ran.entries (ran : Ran) : List Entry :=
  ran.events.map fun event => { ticket := ran.task.ticket, event }

theorem drain_idle {session : Session} (clock : Clock) (idle : session.queue[0]? = none) :
    session.drain clock = ([], session) := by
  rw [drain]
  split
  · rfl
  · rename_i task found
    cases idle.symm.trans found

theorem drain_task {session : Session} (clock : Clock) {task : Task}
    (found : session.queue[0]? = some task) :
    session.drain clock =
      ({ task, events := (session.effectOf clock task).events } ::
          ((session.afterTask clock 0 task).drain clock).1,
        ((session.afterTask clock 0 task).drain clock).2) := by
  rw [drain]
  split
  · rename_i none_left
    cases none_left.symm.trans found
  · rename_i other here
    obtain rfl := Option.some.inj (found.symm.trans here)
    rfl

theorem drain_reached (session : Session) (clock : Clock) :
    ∃ moves, OnlyRuns clock moves ∧ (session.drain clock).2 = session.after moves := by
  induction session using Session.drain.induct clock with
  | case1 session idle =>
    rw [drain_idle clock idle]
    exact ⟨[], by simp [OnlyRuns], rfl⟩
  | case2 session task found _ _ _ ih =>
    obtain ⟨moves, only, reached⟩ := ih
    rw [drain_task clock found]
    refine ⟨.run 0 clock :: moves, ?_, ?_⟩
    · intro move member
      rcases List.mem_cons.mp member with rfl | later
      · exact ⟨0, rfl⟩
      · exact only move later
    · rw [after_cons, play_run_some clock found]
      exact reached

theorem queue_drain (session : Session) (clock : Clock) : (session.drain clock).2.queue = [] := by
  induction session using Session.drain.induct clock with
  | case1 session idle =>
    rw [drain_idle clock idle]
    exact List.isEmpty_iff.mp (by simpa using idle)
  | case2 session task found _ _ _ ih =>
    rw [drain_task clock found]
    exact ih

theorem log_drain (session : Session) (clock : Clock) :
    (session.drain clock).2.log = session.log ++ (session.drain clock).1.flatMap Ran.entries := by
  induction session using Session.drain.induct clock with
  | case1 session idle =>
    rw [drain_idle clock idle]
    simp
  | case2 session task found _ _ _ ih =>
    rw [drain_task clock found]
    simp only [ih, List.flatMap_cons, ← List.append_assoc]
    rfl

theorem events_drain (session : Session) (clock : Clock) :
    (session.drain clock).2.log.map Entry.event =
      session.log.map Entry.event ++ (session.drain clock).1.flatMap Ran.events := by
  have entries : ∀ ran : List Ran,
      (ran.flatMap Ran.entries).map Entry.event = ran.flatMap Ran.events := by
    intro ran
    induction ran with
    | nil => rfl
    | cons task rest ih =>
      rw [List.flatMap_cons, List.map_append, ih, Ran.entries, List.map_map]
      exact congrArg (· ++ _) (List.map_id _)
  rw [log_drain, List.map_append, entries]

theorem turns_onlyRuns {clock : Clock} {moves : List Move} (only : OnlyRuns clock moves)
    (session : Session) (number : Nat) :
    ∀ turn ∈ session.turns number moves, turn.files = session.files ∧ turn.clock = clock := by
  induction moves generalizing session with
  | nil =>
    intro turn member
    cases member
  | cons move rest ih =>
    obtain ⟨index, rfl⟩ := only move List.mem_cons_self
    have later : OnlyRuns clock rest := fun move member => only move (List.mem_cons_of_mem _ member)
    have same_files : (session.play (.run index clock)).files = session.files := by
      cases found : session.queue[index]? with
      | none => rw [play_run_none clock found]
      | some task => rw [play_run_some clock found]; rfl
    intro turn member
    rcases List.mem_append.mp member with first | more
    · simp only [turn?] at first
      split at first
      · split at first
        · obtain rfl := List.mem_singleton.mp first
          exact ⟨rfl, rfl⟩
        · cases first
      · cases first
    · rw [← same_files]
      exact ih later _ turn more

/-- Where one request is made, all that is logged is about it. -/
theorem eventsOf_only {session : Session} (numbered : session.Numbered)
    (one : session.nextNumber = 1) : session.eventsOf 0 = session.log.map Entry.event := by
  have own : session.log.filter (·.ticket.number = 0) = session.log := by
    apply List.filter_eq_self.mpr
    intro entry member
    have bound := numbered.logged entry member
    simp only [decide_eq_true_eq]
    omega
  rw [eventsOf, own]

/-- One request in a session of its own, run to its end: what is logged is what its course comes to,
and no job is left. -/
theorem course_drained (config : Config) (folder : Folder) (files : Tree)
    (registry : List String) (clock : Clock) (requester : String) (opening : Opening) :
    let alone := idle config folder files registry
    let drained := ((alone.play (.enroll requester opening)).drain clock).2
    ∃ turns last, Course alone.config alone.folder (opening.effect alone) turns last ∧
      (∀ turn ∈ turns, turn.files = files ∧ turn.clock = clock) ∧
      drained.log.map Entry.event = last.events ∧ last.next.toList = [] := by
  intro alone drained
  have first : alone.Numbered := numbered_idle config folder files registry
  obtain ⟨moves, only, reached⟩ := (alone.play (.enroll requester opening)).drain_reached clock
  obtain ⟨last, course, shown⟩ := shows_enrolled first requester opening moves
  change drained = _ at reached
  rw [← reached] at shown
  have one : drained.nextNumber = 1 := by
    rw [reached, nextNumber_after, nextNumber_play, countP_enrolls_onlyRuns only]
    rfl
  have numbered : drained.Numbered := by
    rw [reached]
    exact numbered_after (numbered_play first _) moves
  refine ⟨_, last, course, ?_, (eventsOf_only numbered one).symm.trans shown.events, ?_⟩
  · intro turn member
    obtain ⟨same_files, same_clock⟩ := turns_onlyRuns only _ _ turn member
    refine ⟨same_files.trans ?_, same_clock⟩
    rw [play_enroll]
    rfl
  · rw [← shown.jobs, jobsOf, queue_drain]
    rfl

end Session

end ConsoleBatch.Run
