import ConsoleBatch.Run.Session

/-! What can happen to a session, in any order.

Requests are made and batches are started, waiting jobs are run whenever and wherever in the queue
they stand, and the files and the known commands change in between. Every request has a number;
the log and the queue are read number by number. -/

namespace ConsoleBatch.Run

open Files (Folder Tree)
open Lint (Clock)

/-- What a request begins with. A batch can be started directly, without a file. -/
inductive Opening where
  | request (name : String)
  | start (batch : InFlight)

def Opening.effect (session : Session) : Opening → Effect
  | request name =>
    openRequest session.config session.folder session.files session.registry name
  | start batch => drive session.config batch

theorem request_refused {session : Session} {name : String} {error : LookupError}
    (refused : session.folder.locate session.files name = .error error) :
    (Opening.request name).effect session = refusal session.config error := by
  change openRequest session.config session.folder session.files session.registry name = _
  unfold openRequest
  rw [refused]

theorem request_accepted {session : Session} {name fileName : String}
    (found : session.folder.locate session.files name = .ok fileName) :
    (Opening.request name).effect session =
      { events := tell session.config .executionStarted [("filename", fileName)]
        next := some (.read fileName (session.registry.map Text.lowered)) } := by
  change openRequest session.config session.folder session.files session.registry name = _
  unfold openRequest
  rw [found]

inductive Move where
  | enroll (requester : String) (opening : Opening)
  | run (index : Nat) (clock : Clock)
  | setRegistry (names : List String)
  | setFiles (files : Tree)

def Move.enrolls : Move → Bool
  | enroll _ _ => true
  | _ => false

structure Turn where
  job : Job
  files : Tree
  clock : Clock

def Turn.effect (config : Config) (folder : Folder) (turn : Turn) : Effect :=
  runJob config folder turn.files turn.clock turn.job

namespace Session

def idle (config : Config) (folder : Folder) (files : Tree) (registry : List String) : Session :=
  { config, folder, files, registry }

def play (session : Session) : Move → Session
  | .enroll requester (.request name) => session.request requester name
  | .enroll requester (.start batch) => session.start requester batch
  | .run index clock =>
    match session.runAt? clock index with
    | some (_, later) => later
    | none => session
  | .setRegistry names => session.setRegistry names
  | .setFiles files => session.setFiles files

def after (session : Session) (moves : List Move) : Session :=
  moves.foldl play session

def eventsOf (session : Session) (number : Nat) : List Event :=
  (session.log.filter (·.ticket.number = number)).map Entry.event

def jobsOf (session : Session) (number : Nat) : List Job :=
  (session.queue.filter (·.ticket.number = number)).map Task.job

def turn? (session : Session) (number : Nat) : Move → Option Turn
  | .run index clock =>
    match session.queue[index]? with
    | some task =>
      if task.ticket.number = number then some { job := task.job, files := session.files, clock }
      else none
    | none => none
  | _ => none

/-- The jobs of a request that some moves run. -/
def turns (number : Nat) : Session → List Move → List Turn
  | _, [] => []
  | session, move :: rest =>
    (session.turn? number move).toList ++ turns number (session.play move) rest

@[simp] theorem after_nil (session : Session) : session.after [] = session := rfl

@[simp] theorem after_cons (session : Session) (move : Move) (rest : List Move) :
    session.after (move :: rest) = (session.play move).after rest := rfl

theorem play_enroll (session : Session) (requester : String) (opening : Opening) :
    session.play (.enroll requester opening) =
      session.enroll requester (opening.effect session) := by
  cases opening <;> rfl

theorem play_run_none {session : Session} {index : Nat} (clock : Clock)
    (missing : session.queue[index]? = none) : session.play (.run index clock) = session := by
  simp [play, runAt?, missing]

theorem play_run_some {session : Session} {index : Nat} {task : Task} (clock : Clock)
    (found : session.queue[index]? = some task) :
    session.play (.run index clock) = session.afterTask clock index task := by
  simp [play, runAt?, found]

theorem frame_play (session : Session) (move : Move) :
    (session.play move).config = session.config ∧ (session.play move).folder = session.folder ∧
      (session.play move).nextNumber = session.nextNumber + if move.enrolls then 1 else 0 := by
  cases move with
  | enroll requester opening => rw [play_enroll]; exact ⟨rfl, rfl, rfl⟩
  | run index clock =>
    cases found : session.queue[index]? with
    | none => rw [play_run_none clock found]; exact ⟨rfl, rfl, rfl⟩
    | some task => rw [play_run_some clock found]; exact ⟨rfl, rfl, rfl⟩
  | setRegistry names => exact ⟨rfl, rfl, rfl⟩
  | setFiles files => exact ⟨rfl, rfl, rfl⟩

@[simp] theorem config_play (session : Session) (move : Move) :
    (session.play move).config = session.config :=
  (session.frame_play move).1

@[simp] theorem folder_play (session : Session) (move : Move) :
    (session.play move).folder = session.folder :=
  (session.frame_play move).2.1

theorem nextNumber_play (session : Session) (move : Move) :
    (session.play move).nextNumber = session.nextNumber + if move.enrolls then 1 else 0 :=
  (session.frame_play move).2.2

@[simp] theorem config_after (session : Session) (moves : List Move) :
    (session.after moves).config = session.config := by
  induction moves generalizing session with
  | nil => rfl
  | cons move rest ih => rw [after_cons, ih, config_play]

@[simp] theorem folder_after (session : Session) (moves : List Move) :
    (session.after moves).folder = session.folder := by
  induction moves generalizing session with
  | nil => rfl
  | cons move rest ih => rw [after_cons, ih, folder_play]

theorem nextNumber_after (session : Session) (moves : List Move) :
    (session.after moves).nextNumber = session.nextNumber + moves.countP Move.enrolls := by
  induction moves generalizing session with
  | nil => rfl
  | cons move rest ih =>
    rw [after_cons, ih, nextNumber_play, List.countP_cons]
    omega

/-- All that is logged or waits has a ticket of some kind. -/
structure Ticketed (session : Session) (holds : Ticket → Prop) : Prop where
  logged : ∀ entry ∈ session.log, holds entry.ticket
  waiting : ∀ task ∈ session.queue, holds task.ticket

theorem ticketed_record {session : Session} {holds : Ticket → Prop}
    (ticketed : session.Ticketed holds) {ticket : Ticket} (fresh : holds ticket)
    (effect : Effect) : (session.record ticket effect).Ticketed holds := by
  constructor
  · intro entry member
    rcases List.mem_append.mp member with old | new
    · exact ticketed.logged entry old
    · obtain ⟨event, _, rfl⟩ := List.mem_map.mp new
      exact fresh
  · intro task member
    rcases List.mem_append.mp member with old | new
    · exact ticketed.waiting task old
    · obtain ⟨job, _, rfl⟩ := List.mem_map.mp new
      exact fresh

/-- Only a new request brings a new ticket. -/
theorem ticketed_play {session : Session} {holds : Ticket → Prop}
    (ticketed : session.Ticketed holds) (move : Move)
    (fresh : ∀ requester opening, move = .enroll requester opening →
      holds { number := session.nextNumber, requester }) :
    (session.play move).Ticketed holds := by
  cases move with
  | enroll requester opening =>
    rw [play_enroll]
    have recorded := ticketed_record ticketed (fresh requester opening rfl) (opening.effect session)
    exact ⟨recorded.logged, recorded.waiting⟩
  | run index clock =>
    cases found : session.queue[index]? with
    | none => rwa [play_run_none clock found]
    | some task =>
      rw [play_run_some clock found]
      have left : ({ session with queue := session.queue.eraseIdx index } : Session).Ticketed
          holds :=
        ⟨ticketed.logged, fun other member =>
          ticketed.waiting other (List.mem_of_mem_eraseIdx member)⟩
      exact ticketed_record left (ticketed.waiting task (List.mem_of_getElem? found)) _
  | setRegistry names => exact ⟨ticketed.logged, ticketed.waiting⟩
  | setFiles files => exact ⟨ticketed.logged, ticketed.waiting⟩

theorem ticketed_idle (config : Config) (folder : Folder) (files : Tree)
    (registry : List String) (holds : Ticket → Prop) :
    (idle config folder files registry).Ticketed holds := by
  constructor
  · intro entry member
    cases member
  · intro task member
    cases member

structure Numbered (session : Session) : Prop where
  logged : ∀ entry ∈ session.log, entry.ticket.number < session.nextNumber
  waiting : ∀ task ∈ session.queue, task.ticket.number < session.nextNumber

theorem numbered_iff {session : Session} :
    session.Numbered ↔ session.Ticketed fun ticket => ticket.number < session.nextNumber :=
  ⟨fun numbered => ⟨numbered.logged, numbered.waiting⟩,
    fun ticketed => ⟨ticketed.logged, ticketed.waiting⟩⟩

theorem numbered_idle (config : Config) (folder : Folder) (files : Tree)
    (registry : List String) : (idle config folder files registry).Numbered :=
  numbered_iff.mpr (ticketed_idle _ _ _ _ _)

theorem numbered_play {session : Session} (numbered : session.Numbered) (move : Move) :
    (session.play move).Numbered := by
  rw [numbered_iff, nextNumber_play]
  apply ticketed_play
  · exact ⟨fun entry member => Nat.lt_add_right _ (numbered.logged entry member),
      fun task member => Nat.lt_add_right _ (numbered.waiting task member)⟩
  · rintro requester opening rfl
    exact Nat.lt_succ_self _

theorem numbered_after {session : Session} (numbered : session.Numbered) (moves : List Move) :
    (session.after moves).Numbered := by
  induction moves generalizing session with
  | nil => exact numbered
  | cons move rest ih => exact ih (numbered_play numbered move)

def Addressed (session : Session) (number : Nat) (requester : String) : Prop :=
  session.Ticketed fun ticket => ticket.number = number → ticket.requester = requester

theorem addressed_enroll {session : Session} (numbered : session.Numbered) (requester : String)
    (opening : Opening) :
    (session.play (.enroll requester opening)).Addressed session.nextNumber requester := by
  apply ticketed_play
  · constructor
    · intro entry member here
      have bound := numbered.logged entry member
      omega
    · intro task member here
      have bound := numbered.waiting task member
      omega
  · intro other opening' same _
    cases same
    rfl

theorem addressed_after {session : Session} {number : Nat} {requester : String}
    (addressed : session.Addressed number requester) (made : number < session.nextNumber)
    (moves : List Move) : (session.after moves).Addressed number requester := by
  induction moves generalizing session with
  | nil => exact addressed
  | cons move rest ih =>
    apply ih
    · apply ticketed_play addressed
      intro other opening _ here
      have later : session.nextNumber = number := here
      omega
    · rw [nextNumber_play]
      omega

theorem eventsOf_unmade {session : Session} (numbered : session.Numbered) {number : Nat}
    (unmade : session.nextNumber ≤ number) : session.eventsOf number = [] := by
  have none_logged : session.log.filter (·.ticket.number = number) = [] := by
    apply List.filter_eq_nil_iff.mpr
    intro entry member
    have bound := numbered.logged entry member
    simp only [decide_eq_true_eq]
    omega
  rw [eventsOf, none_logged, List.map_nil]

theorem jobsOf_unmade {session : Session} (numbered : session.Numbered) {number : Nat}
    (unmade : session.nextNumber ≤ number) : session.jobsOf number = [] := by
  have none_waiting : session.queue.filter (·.ticket.number = number) = [] := by
    apply List.filter_eq_nil_iff.mpr
    intro task member
    have bound := numbered.waiting task member
    simp only [decide_eq_true_eq]
    omega
  rw [jobsOf, none_waiting, List.map_nil]

end Session

end ConsoleBatch.Run
