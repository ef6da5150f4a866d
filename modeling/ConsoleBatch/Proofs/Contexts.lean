import ConsoleBatch.Proofs.Safety

/-! Where things happen: on the worker, on the primary context, or in the call of a request.

Each entry of the log is given the place of the job that made it. The worker makes none, and what is
made outside of jobs belongs to the request that is being made. -/

namespace ConsoleBatch.Run

open Files (Folder Tree)
open Lint (Clock)

def Event.isDispatch : Event → Bool
  | dispatch _ _ => true
  | _ => false

theorem isDispatch_of_silence {events : List Event} (silent : dispatchedIn events = [])
    {event : Event} (member : event ∈ events) : event.isDispatch = false := by
  cases event with
  | dispatch identity command =>
    have dispatched : command ∈ dispatchedIn events :=
      List.mem_filterMap.mpr ⟨.dispatch identity command, member, rfl⟩
    rw [silent] at dispatched
    cases dispatched
  | message | finished => rfl

theorem afterReading_place (config : Config) (fileName : String) (known : List String)
    (clock : Clock) (found : Except BatchError String) :
    (afterReading config fileName known clock found).place = .primary := by
  cases found <;> rfl

/-- The worker hands over to the primary context, and does nothing else. -/
theorem runJob_worker (config : Config) (folder : Folder) (files : Tree) (clock : Clock) {job : Job}
    (worker : job.place = .worker) :
    (runJob config folder files clock job).events = [] ∧
      ∃ next, (runJob config folder files clock job).next = some next ∧
        next.place = .primary := by
  cases job with
  | read fileName known => exact ⟨rfl, _, rfl, afterReading_place _ _ _ _ _⟩
  | wait millis batch => exact ⟨rfl, _, rfl, rfl⟩
  | reportUnreadable | «begin» | resume | resumeLater => cases worker

def AsConsole (events : List Event) : Prop :=
  ∀ identity command, .dispatch identity command ∈ events → identity = .console

theorem asConsole_append {first second : List Event} (left : AsConsole first)
    (right : AsConsole second) : AsConsole (first ++ second) := by
  intro identity command member
  rcases List.mem_append.mp member with member | member
  · exact left identity command member
  · exact right identity command member

theorem asConsole_of_silence {events : List Event} (silent : dispatchedIn events = []) :
    AsConsole events := by
  intro identity command member
  cases isDispatch_of_silence silent member

theorem asConsole_dispatches (commands : List String) :
    AsConsole (commands.map (.dispatch .console)) := by
  intro identity command member
  obtain ⟨_, _, same⟩ := List.mem_map.mp member
  cases same
  rfl

theorem asConsole_drive (config : Config) (batch : InFlight) :
    AsConsole (drive config batch).events := by
  unfold drive
  dsimp only
  split
  · exact asConsole_dispatches _
  · exact asConsole_append (asConsole_dispatches _) (asConsole_of_silence (dispatchedIn_closing ..))

theorem asConsole_runJob (config : Config) (folder : Folder) (files : Tree) (clock : Clock)
    (job : Job) : AsConsole (runJob config folder files clock job).events := by
  have told : ∀ key bindings outcome,
      AsConsole (tell config key bindings ++ [.finished outcome]) := by
    intro key bindings outcome
    apply asConsole_of_silence
    rw [dispatchedIn_append, dispatchedIn_tell, dispatchedIn_finished, List.append_nil]
  cases job with
  | read fileName known => exact asConsole_of_silence rfl
  | wait millis batch => exact asConsole_of_silence rfl
  | reportUnreadable => exact told _ _ _
  | «begin» fileName parsed =>
    cases parsed with
    | none => exact told _ _ _
    | some batch =>
      exact asConsole_append (asConsole_of_silence (dispatchedIn_messages _)) (asConsole_drive _ _)
  | resume batch => exact asConsole_drive config batch
  | resumeLater ticks batch => exact asConsole_drive config batch

namespace Session

theorem request_silent (session : Session) (name : String) :
    dispatchedIn ((Opening.request name).effect session).events = [] := by
  cases looked : session.folder.locate session.files name with
  | error error =>
    rw [request_refused looked]
    exact dispatchedIn_refusal _ _
  | ok fileName =>
    rw [request_accepted looked]
    exact dispatchedIn_tell _ _ _

theorem asConsole_opening (session : Session) (opening : Opening) :
    AsConsole (opening.effect session).events := by
  cases opening with
  | request name => exact asConsole_of_silence (session.request_silent name)
  | start batch => exact asConsole_drive _ _

def placeOf (session : Session) : Move → Option Place
  | .run index _ => session.queue[index]?.map fun task => task.job.place
  | _ => none

def added (session : Session) (move : Move) : List Entry :=
  (session.play move).log.drop session.log.length

/-- What some moves add to the log, each entry with the place of the job that made it. -/
def placedLog : Session → List Move → List (Option Place × Entry)
  | _, [] => []
  | session, move :: rest =>
    (session.added move).map (session.placeOf move, ·) ++ (session.play move).placedLog rest

variable {session : Session}

theorem log_record (session : Session) (ticket : Ticket) (effect : Effect) :
    (session.record ticket effect).log =
      session.log ++ effect.events.map fun event => { ticket, event : Entry } := rfl

theorem added_enroll (session : Session) (requester : String) (opening : Opening) :
    session.added (.enroll requester opening) = (opening.effect session).events.map fun event =>
      { ticket := { number := session.nextNumber, requester }, event } := by
  unfold added
  rw [play_enroll]
  exact List.drop_left

theorem added_run {index : Nat} {task : Task} (clock : Clock)
    (found : session.queue[index]? = some task) :
    session.added (.run index clock) = (session.effectOf clock task).events.map fun event =>
      { ticket := task.ticket, event } := by
  unfold added
  rw [play_run_some clock found]
  exact List.drop_left

theorem added_missing {index : Nat} (clock : Clock) (missing : session.queue[index]? = none) :
    session.added (.run index clock) = [] := by
  unfold added
  rw [play_run_none clock missing, List.drop_length]

theorem mem_added {move : Move} {entry : Entry} (member : entry ∈ session.added move) :
    (∃ requester opening event, move = .enroll requester opening ∧
      event ∈ (opening.effect session).events ∧
      entry = { ticket := { number := session.nextNumber, requester }, event }) ∨
    ∃ index clock task event, move = .run index clock ∧ session.queue[index]? = some task ∧
      event ∈ (session.effectOf clock task).events ∧ entry = { ticket := task.ticket, event } := by
  cases move with
  | enroll requester opening =>
    rw [added_enroll] at member
    obtain ⟨event, told, rfl⟩ := List.mem_map.mp member
    exact .inl ⟨requester, opening, event, rfl, told, rfl⟩
  | run index clock =>
    cases found : session.queue[index]? with
    | none =>
      rw [added_missing clock found] at member
      cases member
    | some task =>
      rw [added_run clock found] at member
      obtain ⟨event, told, rfl⟩ := List.mem_map.mp member
      exact .inr ⟨index, clock, task, event, rfl, found, told, rfl⟩
  | setRegistry names | setFiles files =>
    have nothing : session.log.drop session.log.length = [] := List.drop_length
    change entry ∈ session.log.drop session.log.length at member
    rw [nothing] at member
    cases member

theorem log_play (session : Session) (move : Move) :
    (session.play move).log = session.log ++ session.added move := by
  cases move with
  | enroll requester opening =>
    rw [added_enroll, play_enroll]
    rfl
  | run index clock =>
    cases found : session.queue[index]? with
    | none => rw [added_missing clock found, play_run_none clock found, List.append_nil]
    | some task =>
      rw [added_run clock found, play_run_some clock found]
      rfl
  | setRegistry names | setFiles files =>
    unfold added
    simp [play, setRegistry, setFiles]

theorem log_after (session : Session) (moves : List Move) :
    (session.after moves).log = session.log ++ (session.placedLog moves).map Prod.snd := by
  induction moves generalizing session with
  | nil => exact (List.append_nil _).symm
  | cons move rest ih =>
    have own : ((session.added move).map (session.placeOf move, ·)).map Prod.snd =
        session.added move := by
      rw [List.map_map]
      exact List.map_id _
    rw [after_cons, ih, log_play, placedLog, List.map_append, own, List.append_assoc]

theorem mem_placedLog {moves : List Move} {place : Option Place} {entry : Entry}
    (member : (place, entry) ∈ session.placedLog moves) :
    ∃ front move back, moves = front ++ move :: back ∧
      place = (session.after front).placeOf move ∧ entry ∈ (session.after front).added move := by
  induction moves generalizing session with
  | nil => cases member
  | cons move rest ih =>
    rcases List.mem_append.mp member with now | later
    · obtain ⟨_, added, same⟩ := List.mem_map.mp now
      cases same
      exact ⟨[], move, rest, rfl, rfl, added⟩
    · obtain ⟨front, other, back, rfl, place, added⟩ := ih later
      exact ⟨move :: front, other, back, rfl, place, added⟩

theorem placeOf_added {move : Move} {entry : Entry} (member : entry ∈ session.added move) :
    session.placeOf move = none ∧ entry.ticket.number = session.nextNumber ∨
      session.placeOf move = some .primary ∨
      ∃ ticks, session.placeOf move = some (.later ticks) := by
  rcases mem_added member with
    ⟨requester, opening, event, rfl, _, rfl⟩ | ⟨index, clock, task, event, rfl, found, told, rfl⟩
  · exact .inl ⟨rfl, rfl⟩
  · have here : session.placeOf (.run index clock) = some task.job.place := by
      simp [placeOf, found]
    rw [here]
    cases place : task.job.place with
    | worker =>
      have silent : (session.effectOf clock task).events = [] := (runJob_worker _ _ _ _ place).1
      rw [silent] at told
      cases told
    | primary => exact .inr (.inl rfl)
    | later ticks => exact .inr (.inr ⟨ticks, rfl⟩)

theorem asConsole_added {move : Move} {entry : Entry} (member : entry ∈ session.added move)
    {identity : Identity} {command : String} (dispatch : entry.event = .dispatch identity command) :
    identity = .console := by
  rcases mem_added member with
    ⟨_, opening, event, _, told, rfl⟩ | ⟨_, clock, task, event, _, _, told, rfl⟩
  · obtain rfl := dispatch
    exact session.asConsole_opening opening identity command told
  · obtain rfl := dispatch
    exact asConsole_runJob _ _ _ _ _ identity command told

theorem accepted_place {requester name fileName : String} {later : List Move}
    (found : session.folder.locate session.files name = .ok fileName) {place : Option Place}
    {entry : Entry}
    (member : (place, entry) ∈ session.placedLog (.enroll requester (.request name) :: later))
    (own : entry.ticket.number = session.nextNumber)
    (acts : entry.event.isDispatch = true ∨ entry.event.isFinish = true) :
    place = some .primary ∨ ∃ ticks, place = some (.later ticks) := by
  rcases List.mem_append.mp member with now | onward
  · -- The call itself only tells that the request is accepted.
    obtain ⟨_, added, same⟩ := List.mem_map.mp now
    cases same
    rw [added_enroll, request_accepted found] at added
    obtain ⟨event, told, rfl⟩ := List.mem_map.mp added
    obtain ⟨text, _, rfl⟩ := List.mem_map.mp told
    rcases acts with dispatches | ends
    · cases dispatches
    · cases ends
  · obtain ⟨front, move, _, _, rfl, added⟩ := mem_placedLog onward
    rcases placeOf_added added with ⟨_, other⟩ | primary
    · -- A later request has a number of its own.
      rw [nextNumber_after, nextNumber_play, own] at other
      simp only [Move.enrolls, if_true] at other
      omega
    · exact primary

/-- In every state that a session gets to: a job of the worker leaves the log as it is, and one job
follows it, on the primary context; the call of a request dispatches nothing; an accepted request
dispatches and ends in primary jobs only, which may be delayed; and all is dispatched as the
console. -/
theorem context_discipline (config : Config) (folder : Folder) (files : Tree)
    (registry : List String) (moves : List Move) :
    let session := (idle config folder files registry).after moves
    (∀ index clock task, session.queue[index]? = some task → task.job.place = .worker →
      (session.play (.run index clock)).log = session.log ∧
        ∃ job : Job, job.place = .primary ∧ (session.play (.run index clock)).queue =
          session.queue.eraseIdx index ++ [{ ticket := task.ticket, job }]) ∧
    (∀ requester name, ∀ entry ∈ session.added (.enroll requester (.request name)),
      entry.event.isDispatch = false) ∧
    (∀ requester name fileName later, session.folder.locate session.files name = .ok fileName →
      let placed := session.placedLog (.enroll requester (.request name) :: later)
      ((session.request requester name).after later).log = session.log ++ placed.map Prod.snd ∧
        ∀ place entry, (place, entry) ∈ placed → entry.ticket.number = session.nextNumber →
          entry.event.isDispatch = true ∨ entry.event.isFinish = true →
            place = some .primary ∨ ∃ ticks, place = some (.later ticks)) ∧
    ∀ entry ∈ session.log, ∀ identity command, entry.event = .dispatch identity command →
      identity = .console := by
  intro session
  refine ⟨?_, ?_, ?_, ?_⟩
  · intro index clock task found worker
    obtain ⟨silent, job, follows, primary⟩ :=
      runJob_worker session.config session.folder session.files clock worker
    have events : (session.effectOf clock task).events = [] := silent
    have next : (session.effectOf clock task).next = some job := follows
    rw [play_run_some clock found]
    refine ⟨?_, job, primary, ?_⟩
    · rw [afterTask, log_record, events]
      exact List.append_nil _
    · unfold afterTask record
      rw [next]
      rfl
  · intro requester name entry member
    rw [added_enroll] at member
    obtain ⟨event, told, rfl⟩ := List.mem_map.mp member
    exact isDispatch_of_silence (session.request_silent name) told
  · intro requester name fileName later found placed
    refine ⟨session.log_after (.enroll requester (.request name) :: later), ?_⟩
    intro place entry member own acts
    exact accepted_place found member own acts
  · intro entry member identity command dispatch
    have whole : session.log = ((idle config folder files registry).placedLog moves).map Prod.snd :=
      log_after _ moves
    rw [whole] at member
    obtain ⟨⟨place, other⟩, placed, rfl⟩ := List.mem_map.mp member
    obtain ⟨front, move, _, _, _, added⟩ := mem_placedLog placed
    exact asConsole_added added dispatch

theorem context_discipline_greet :
    let opened := idle unlinted ⟨".", ".batch"⟩ shelf []
    let requested := opened.after [.enroll "first" (.request "greet")]
    let moves : List Move := [.enroll "first" (.request "greet"), .run 0 (.still 0),
      .run 0 (.still 0), .run 0 (.still 0)]
    let bye : Entry := ⟨⟨0, "first"⟩, .dispatch .console "say bye"⟩
    requested.queue = [⟨⟨0, "first"⟩, .read "greet.batch" []⟩] ∧
      (requested.play (.run 0 (.still 0))).log = requested.log ∧
      (some (.later 40), bye) ∈ opened.placedLog moves ∧
      ∀ place, (place, bye) ∈ opened.placedLog moves →
        place = some .primary ∨ ∃ ticks, place = some (.later ticks) := by
  intro opened requested moves bye
  have waiting : requested.queue = [⟨⟨0, "first"⟩, .read "greet.batch" []⟩] := by decide +kernel
  have placed : (some (.later 40), bye) ∈ opened.placedLog moves := by decide +kernel
  have first : requested.queue[0]? = some ⟨⟨0, "first"⟩, .read "greet.batch" []⟩ := by
    rw [waiting]
    rfl
  obtain ⟨worker, _⟩ := context_discipline unlinted ⟨".", ".batch"⟩ shelf []
    [.enroll "first" (.request "greet")]
  obtain ⟨_, _, accepted, _⟩ := context_discipline unlinted ⟨".", ".batch"⟩ shelf [] []
  obtain ⟨_, primary⟩ := accepted "first" "greet" "greet.batch" moves.tail locate_greet
  refine ⟨waiting, (worker 0 (.still 0) _ first rfl).1, placed, ?_⟩
  intro place member
  exact primary place bye member rfl (.inl rfl)

end Session

end ConsoleBatch.Run
