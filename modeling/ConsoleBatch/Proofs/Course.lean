import ConsoleBatch.Proofs.Moves

/-! One request among many.

What a session shows of a request is an effect: its events so far, and its waiting job. Whatever
else happens, this effect goes on by the request's own jobs alone: the view of one request follows
a course, in which each turn runs the one job that is due. -/

namespace ConsoleBatch.Run

open Files (Folder Tree)
open Lint (Clock)

def Effect.followedBy (first second : Effect) : Effect where
  events := first.events ++ second.events
  next := second.next

/-- How a request gets from one effect to another by turns of its own. -/
inductive Course (config : Config) (folder : Folder) : Effect → List Turn → Effect → Prop
  | rest (effect : Effect) : Course config folder effect [] effect
  | turn {effect last : Effect} {turn : Turn} {more : List Turn}
      (due : effect.next = some turn.job)
      (onward : Course config folder (effect.followedBy (turn.effect config folder)) more last) :
      Course config folder effect (turn :: more) last

namespace Course

variable {config : Config} {folder : Folder}

theorem single {effect : Effect} {turn : Turn} (due : effect.next = some turn.job) :
    Course config folder effect [turn] (effect.followedBy (turn.effect config folder)) :=
  .turn due (.rest _)

theorem append {first middle last : Effect} {turns more : List Turn}
    (start : Course config folder first turns middle)
    (finish : Course config folder middle more last) :
    Course config folder first (turns ++ more) last := by
  induction start with
  | rest effect => exact finish
  | turn due _ ih => exact .turn due (ih finish)

theorem behind {first second last : Effect} {turns : List Turn}
    (course : Course config folder (first.followedBy second) turns last) :
    ∃ own, Course config folder second turns own ∧ last = first.followedBy own := by
  generalize origin : first.followedBy second = effect at course
  induction course generalizing second with
  | rest effect => exact ⟨second, .rest second, origin.symm⟩
  | @turn effect last turn more due onward ih =>
    subst origin
    obtain ⟨own, course, rfl⟩ := @ih (second.followedBy (turn.effect config folder))
      (by simp [Effect.followedBy])
    exact ⟨own, .turn due course, rfl⟩

theorem ended {effect last : Effect} {turns : List Turn}
    (course : Course config folder effect turns last) (none_due : effect.next = none) :
    turns = [] ∧ last = effect := by
  cases course with
  | rest => exact ⟨rfl, rfl⟩
  | turn due _ =>
    rw [none_due] at due
    cases due

/-- A property that each turn keeps holds at the end of a course. -/
theorem invariant {holds : Effect → Prop}
    (kept : ∀ effect turn, effect.next = some turn.job → holds effect →
      holds (effect.followedBy (Turn.effect config folder turn)))
    {effect last : Effect} {turns : List Turn} (course : Course config folder effect turns last)
    (initially : holds effect) : holds last := by
  induction course with
  | rest effect => exact initially
  | turn due _ ih => exact ih (kept _ _ due initially)

end Course

namespace Session

structure Shows (session : Session) (number : Nat) (effect : Effect) : Prop where
  events : session.eventsOf number = effect.events
  jobs : session.jobsOf number = effect.next.toList

theorem eventsOf_record (session : Session) (ticket : Ticket) (effect : Effect) (number : Nat) :
    (session.record ticket effect).eventsOf number =
      session.eventsOf number ++ if ticket.number = number then effect.events else [] := by
  simp only [eventsOf, record, List.filter_append, List.map_append, List.filter_map]
  split <;> rename_i same <;> simp [Function.comp_def, same]

theorem jobsOf_record (session : Session) (ticket : Ticket) (effect : Effect) (number : Nat) :
    (session.record ticket effect).jobsOf number =
      session.jobsOf number ++ if ticket.number = number then effect.next.toList else [] := by
  simp only [jobsOf, record, List.filter_append, List.map_append, List.filter_map]
  split <;> rename_i same <;> simp [Function.comp_def, same]

theorem shows_enroll {session : Session} (numbered : session.Numbered) (requester : String)
    (opening : Opening) :
    (session.play (.enroll requester opening)).Shows session.nextNumber
      (opening.effect session) := by
  rw [play_enroll]
  constructor
  · change (session.record ⟨session.nextNumber, requester⟩ _).eventsOf _ = _
    rw [eventsOf_record, eventsOf_unmade numbered (Nat.le_refl _), if_pos rfl, List.nil_append]
  · change (session.record ⟨session.nextNumber, requester⟩ _).jobsOf _ = _
    rw [jobsOf_record, jobsOf_unmade numbered (Nat.le_refl _), if_pos rfl, List.nil_append]

theorem eraseIdx_split {queue : List Task} {index : Nat} {task : Task}
    (found : queue[index]? = some task) :
    ∃ front back, queue = front ++ task :: back ∧ queue.eraseIdx index = front ++ back := by
  obtain ⟨bound, rfl⟩ := List.getElem?_eq_some_iff.mp found
  refine ⟨queue.take index, queue.drop (index + 1), ?_, List.eraseIdx_eq_take_drop_succ _ _⟩
  simp

/-- Running a job moves its own request on by that job, and no other request. -/
theorem shows_afterTask {session : Session} {number : Nat} {effect : Effect}
    (shown : session.Shows number effect) (clock : Clock) {index : Nat} {task : Task}
    (found : session.queue[index]? = some task) :
    (task.ticket.number ≠ number → (session.afterTask clock index task).Shows number effect) ∧
      (task.ticket.number = number → effect.next = some task.job ∧
        (session.afterTask clock index task).Shows number
          (effect.followedBy (session.effectOf clock task))) := by
  obtain ⟨front, back, whole, rest⟩ := eraseIdx_split found
  have logged : ({ session with queue := session.queue.eraseIdx index } : Session).eventsOf number =
      effect.events := shown.events
  have waiting : ({ session with queue := session.queue.eraseIdx index } : Session).jobsOf number =
      ((front ++ back).filter (·.ticket.number = number)).map Task.job := by
    rw [jobsOf, rest]
  have jobs := shown.jobs
  rw [jobsOf, whole, List.filter_append] at jobs
  constructor
  · intro other
    rw [List.filter_cons_of_neg (by simpa using other), ← List.filter_append] at jobs
    constructor
    · rw [afterTask, eventsOf_record, logged, if_neg other, List.append_nil]
    · rw [afterTask, jobsOf_record, waiting, if_neg other, List.append_nil, jobs]
  · intro own
    rw [List.filter_cons_of_pos (by simpa using own), List.map_append, List.map_cons] at jobs
    -- At most one job of the request waits, so that nothing stands around this one.
    have alone : (front.filter (·.ticket.number = number)).map Task.job = [] ∧
        (back.filter (·.ticket.number = number)).map Task.job = [] ∧
          effect.next = some task.job := by
      cases due : effect.next with
      | none => simp [due] at jobs
      | some job =>
        rw [due, Option.toList_some, List.append_eq_singleton_iff] at jobs
        rcases jobs with ⟨before, later⟩ | ⟨_, later⟩
        · obtain ⟨same, after⟩ := List.cons.inj later
          exact ⟨before, after, by rw [same]⟩
        · cases later
    obtain ⟨before, behind, due⟩ := alone
    refine ⟨due, ?_, ?_⟩
    · rw [afterTask, eventsOf_record, logged, if_pos own]
      rfl
    · rw [afterTask, jobsOf_record, waiting, if_pos own, List.filter_append, List.map_append,
        before, behind]
      rfl

theorem shows_play {session : Session} {number : Nat} {effect : Effect}
    (shown : session.Shows number effect) (made : number < session.nextNumber) (move : Move) :
    ∃ last, Course session.config session.folder effect (session.turn? number move).toList last ∧
      (session.play move).Shows number last := by
  cases move with
  | enroll requester opening =>
    refine ⟨effect, .rest effect, ?_⟩
    have other : session.nextNumber ≠ number := by omega
    rw [play_enroll]
    constructor
    · change (session.record ⟨session.nextNumber, requester⟩ _).eventsOf _ = _
      rw [eventsOf_record, if_neg other, List.append_nil, shown.events]
    · change (session.record ⟨session.nextNumber, requester⟩ _).jobsOf _ = _
      rw [jobsOf_record, if_neg other, List.append_nil, shown.jobs]
  | run index clock =>
    cases found : session.queue[index]? with
    | none =>
      rw [play_run_none clock found]
      exact ⟨effect, by simpa [turn?, found] using .rest effect, shown⟩
    | some task =>
      rw [play_run_some clock found]
      obtain ⟨others, own⟩ := shows_afterTask shown clock found
      by_cases same : task.ticket.number = number
      · obtain ⟨due, later⟩ := own same
        refine ⟨_, ?_, later⟩
        simp only [turn?, found, same, if_true, Option.toList_some]
        exact .single due
      · exact ⟨effect, by simpa [turn?, found, same] using .rest effect, others same⟩
  | setRegistry names => exact ⟨effect, .rest effect, shown.events, shown.jobs⟩
  | setFiles files => exact ⟨effect, .rest effect, shown.events, shown.jobs⟩

theorem shows_after {session : Session} {number : Nat} {effect : Effect}
    (shown : session.Shows number effect) (made : number < session.nextNumber)
    (moves : List Move) :
    ∃ last, Course session.config session.folder effect (session.turns number moves) last ∧
      (session.after moves).Shows number last := by
  induction moves generalizing session effect with
  | nil => exact ⟨effect, .rest effect, shown⟩
  | cons move rest ih =>
    obtain ⟨middle, first, shown⟩ := shows_play shown made move
    have made : number < (session.play move).nextNumber := by
      rw [nextNumber_play]
      omega
    obtain ⟨last, second, shown⟩ := ih shown made
    rw [config_play, folder_play] at second
    exact ⟨last, first.append second, shown⟩

theorem shows_enrolled {session : Session} (numbered : session.Numbered) (requester : String)
    (opening : Opening) (later : List Move) :
    ∃ last, Course session.config session.folder (opening.effect session)
        ((session.play (.enroll requester opening)).turns session.nextNumber later) last ∧
      ((session.play (.enroll requester opening)).after later).Shows session.nextNumber last := by
  have made : session.nextNumber < (session.play (.enroll requester opening)).nextNumber := by
    rw [nextNumber_play]
    exact Nat.lt_succ_self _
  have first := shows_after (shows_enroll numbered requester opening) made later
  rwa [config_play, folder_play] at first

/-- In any session, the events of a request are those of a course from its first step. -/
theorem course_of_opening (config : Config) (folder : Folder) (files : Tree)
    (registry : List String) (before later : List Move) (requester : String)
    (opening : Opening) :
    let opened := (idle config folder files registry).after before
    let started := opened.play (.enroll requester opening)
    ∃ last, Course opened.config opened.folder (opening.effect opened)
        (started.turns opened.nextNumber later) last ∧
      (started.after later).eventsOf opened.nextNumber = last.events := by
  intro opened started
  have numbered : opened.Numbered :=
    numbered_after (numbered_idle config folder files registry) before
  obtain ⟨last, course, shown⟩ := shows_enrolled numbered requester opening later
  exact ⟨last, course, shown.events⟩

end Session

end ConsoleBatch.Run
