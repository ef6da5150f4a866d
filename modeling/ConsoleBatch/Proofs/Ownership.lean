import ConsoleBatch.Proofs.Course

/-! Every request is owned by one waiting job until it finishes, and finishes once.

The invariant is that of a balance: a request has finished with its last event and nothing of it
waits, or it has not finished and one job of it waits. Every job hands the balance on. -/

namespace ConsoleBatch.Run

open Files (Folder Tree)
open Lint (Clock)
open Message (Bindings Key)

def Event.isFinish : Event → Bool
  | finished _ => true
  | _ => false

def Outcome.isRefusal : Outcome → Bool
  | rejected | notFound => true
  | _ => false

/-- A request that goes on by one job, or one whose last event is the first to finish it. -/
inductive Effect.Balanced : Effect → Prop
  | owned (events : List Event) (job : Job)
      (unfinished : ∀ event ∈ events, event.isFinish = false) :
      Effect.Balanced { events, next := some job }
  | closed (events : List Event) (outcome : Outcome)
      (unfinished : ∀ event ∈ events, event.isFinish = false) :
      Effect.Balanced { events := events ++ [.finished outcome] }

theorem unfinished_append {first second : List Event}
    (left : ∀ event ∈ first, event.isFinish = false)
    (right : ∀ event ∈ second, event.isFinish = false) :
    ∀ event ∈ first ++ second, event.isFinish = false := by
  intro event member
  rcases List.mem_append.mp member with member | member
  · exact left event member
  · exact right event member

theorem finished_behind {front events : List Event} {outcome : Outcome}
    (unfinished : ∀ event ∈ front, event.isFinish = false)
    (member : .finished outcome ∈ front ++ events) : .finished outcome ∈ events := by
  rcases List.mem_append.mp member with member | member
  · cases unfinished _ member
  · exact member

/-- Nothing follows the end. -/
theorem nothing_behind_end {front events back : List Event} {last event : Event}
    (unfinished : ∀ event ∈ front, event.isFinish = false)
    (split : front ++ [last] = events ++ back) (member : event ∈ events)
    (ends : event.isFinish = true) : back = [] := by
  rcases List.eq_nil_or_concat back with nothing | ⟨rest, final, rfl⟩
  · exact nothing
  · rw [List.concat_eq_append, ← List.append_assoc] at split
    have shorter : front = events ++ rest := (List.append_inj' split rfl).1
    have open_event := unfinished event (by
      rw [shorter]
      exact List.mem_append_left _ member)
    rw [open_event] at ends
    cases ends

theorem unfinished_messages (texts : List String) :
    ∀ event ∈ texts.map Event.message, event.isFinish = false := by
  intro event member
  obtain ⟨text, _, rfl⟩ := List.mem_map.mp member
  rfl

theorem unfinished_tell (config : Config) (key : Key) (bindings : Bindings) :
    ∀ event ∈ tell config key bindings, event.isFinish = false :=
  unfinished_messages _

theorem unfinished_dispatches (commands : List String) :
    ∀ event ∈ commands.map (Event.dispatch .console), event.isFinish = false := by
  intro event member
  obtain ⟨command, _, rfl⟩ := List.mem_map.mp member
  rfl

theorem closing_unfinished (config : Config) (fileName : String) (deferred : List String)
    (summary : Summary) :
    ∃ told, closing config fileName deferred summary = told ++ [.finished (.completed summary)] ∧
      ∀ event ∈ told, event.isFinish = false := by
  refine ⟨_, rfl, ?_⟩
  refine unfinished_append (unfinished_append (unfinished_messages deferred) ?_)
    (unfinished_tell _ _ _)
  split
  · exact unfinished_tell _ _ _
  · intro event member
    cases member

theorem finished_closing {config : Config} {fileName : String} {deferred : List String}
    {summary : Summary} {outcome : Outcome}
    (member : .finished outcome ∈ closing config fileName deferred summary) :
    outcome = .completed summary := by
  obtain ⟨told, split, unfinished⟩ := closing_unfinished config fileName deferred summary
  rw [split] at member
  cases List.mem_singleton.mp (finished_behind unfinished member)
  rfl

theorem balanced_drive (config : Config) (batch : InFlight) : (drive config batch).Balanced := by
  unfold drive
  dsimp only
  split
  · exact .owned _ _ (unfinished_dispatches _)
  · rename_i summary _
    obtain ⟨told, split, unfinished⟩ :=
      closing_unfinished config batch.fileName batch.deferred summary
    rw [split, ← List.append_assoc]
    exact .closed _ _ (unfinished_append (unfinished_dispatches _) unfinished)

theorem balanced_told {told : List Event} {effect : Effect}
    (unfinished : ∀ event ∈ told, event.isFinish = false) (balanced : effect.Balanced) :
    Effect.Balanced { events := told ++ effect.events, next := effect.next } := by
  cases balanced with
  | owned events job later => exact .owned _ _ (unfinished_append unfinished later)
  | closed events outcome later =>
    simp only [← List.append_assoc]
    exact .closed _ _ (unfinished_append unfinished later)

theorem balanced_beginBatch (config : Config) (fileName : String) (parsed : Option Batch.Parsed) :
    (beginBatch config fileName parsed).Balanced := by
  cases parsed with
  | none => exact .closed _ _ (unfinished_tell _ _ _)
  | some batch => exact balanced_told (unfinished_messages _) (balanced_drive _ _)

theorem balanced_runJob (config : Config) (folder : Folder) (files : Tree) (clock : Clock)
    (job : Job) : (runJob config folder files clock job).Balanced := by
  have silent : ∀ event ∈ ([] : List Event), event.isFinish = false := by
    intro event member
    cases member
  cases job with
  | read fileName known => exact .owned _ _ silent
  | reportUnreadable => exact .closed _ _ (unfinished_tell _ _ _)
  | «begin» fileName parsed => exact balanced_beginBatch config fileName parsed
  | wait millis batch => exact .owned _ _ silent
  | resume batch => exact balanced_drive config batch
  | resumeLater ticks batch => exact balanced_drive config batch

theorem balanced_refusal (config : Config) (error : LookupError) :
    (refusal config error).Balanced := by
  cases error with
  | invalidName name =>
    refine .closed _ _ ?_
    split <;> exact unfinished_tell _ _ _
  | notFound name => exact .closed _ _ (unfinished_tell _ _ _)

theorem balanced_opening (session : Session) (opening : Opening) :
    (opening.effect session).Balanced := by
  cases opening with
  | request name =>
    cases looked : session.folder.locate session.files name with
    | error error =>
      rw [request_refused looked]
      exact balanced_refusal _ _
    | ok fileName =>
      rw [request_accepted looked]
      exact .owned _ _ (unfinished_tell _ _ _)
  | start batch => exact balanced_drive _ batch

namespace Effect

theorem balanced_followedBy {first second : Effect} {job : Job} (balanced : first.Balanced)
    (due : first.next = some job) (more : second.Balanced) :
    (first.followedBy second).Balanced := by
  cases balanced with
  | closed events outcome unfinished => cases due
  | owned events other unfinished => exact balanced_told unfinished more

theorem balanced_course {config : Config} {folder : Folder} {effect last : Effect}
    {turns : List Turn} (course : Course config folder effect turns last)
    (balanced : effect.Balanced) : last.Balanced :=
  course.invariant
    (fun _ _ due balanced => balanced_followedBy balanced due (balanced_runJob ..)) balanced

theorem countP_unfinished {events : List Event}
    (unfinished : ∀ event ∈ events, event.isFinish = false) : events.countP Event.isFinish = 0 := by
  apply List.countP_eq_zero.mpr
  intro event member
  rw [unfinished event member]
  decide

/-- One end and no owner, or no end and one owner. -/
theorem balanced_counts {effect : Effect} (balanced : effect.Balanced) :
    effect.events.countP Event.isFinish = 1 ∧ effect.next.toList = [] ∨
      effect.events.countP Event.isFinish = 0 ∧ effect.next.toList.length = 1 := by
  cases balanced with
  | owned events job unfinished => exact .inr ⟨countP_unfinished unfinished, rfl⟩
  | closed events outcome unfinished =>
    refine .inl ⟨?_, rfl⟩
    rw [List.countP_append, countP_unfinished unfinished]
    rfl

theorem balanced_total {effect : Effect} (balanced : effect.Balanced) :
    effect.events.countP Event.isFinish + effect.next.toList.length = 1 := by
  rcases balanced_counts balanced with ⟨ends, owner⟩ | ⟨ends, owner⟩
  · rw [ends, owner, List.length_nil]
  · rw [ends, owner]

theorem balanced_end_last {effect : Effect} (balanced : effect.Balanced) {front back : List Event}
    {event : Event} (split : effect.events = front ++ event :: back)
    (ends : event.isFinish = true) : back = [] := by
  cases balanced with
  | owned events job unfinished =>
    have open_event := unfinished event (by
      change events = _ at split
      rw [split]
      exact List.mem_append_right _ List.mem_cons_self)
    rw [open_event] at ends
    cases ends
  | closed events outcome unfinished =>
    change events ++ [Event.finished outcome] = _ at split
    rw [List.append_cons front event back] at split
    exact nothing_behind_end unfinished split (List.mem_append_right _ List.mem_cons_self) ends

theorem balanced_finished {effect : Effect} (balanced : effect.Balanced) {event : Event}
    (member : event ∈ effect.events) (ends : event.isFinish = true) : effect.next = none := by
  cases balanced with
  | closed events outcome unfinished => rfl
  | owned events job unfinished =>
    rw [unfinished event member] at ends
    cases ends

theorem balanced_ownerless {effect : Effect} (balanced : effect.Balanced)
    (no_job : effect.next.toList = []) : ∃ outcome, .finished outcome ∈ effect.events := by
  cases balanced with
  | owned events job unfinished => cases no_job
  | closed events outcome unfinished =>
    exact ⟨outcome, List.mem_append_right _ List.mem_cons_self⟩

end Effect

theorem runJob_no_refusal (config : Config) (folder : Folder) (files : Tree) (clock : Clock)
    (job : Job) {outcome : Outcome}
    (ends : .finished outcome ∈ (runJob config folder files clock job).events) :
    outcome.isRefusal = false := by
  have driven : ∀ batch, .finished outcome ∈ (drive config batch).events →
      outcome.isRefusal = false := by
    intro batch member
    unfold drive at member
    dsimp only at member
    split at member
    · cases unfinished_dispatches _ _ member
    · rw [finished_closing (finished_behind (unfinished_dispatches _) member)]
      rfl
  cases job with
  | read fileName known => cases ends
  | reportUnreadable =>
    cases List.mem_singleton.mp (finished_behind (unfinished_tell _ _ _) ends)
    rfl
  | «begin» fileName parsed =>
    cases parsed with
    | none =>
      cases List.mem_singleton.mp (finished_behind (unfinished_tell _ _ _) ends)
      rfl
    | some batch => exact driven _ (finished_behind (unfinished_messages _) ends)
  | wait millis batch => cases ends
  | resume batch => exact driven batch ends
  | resumeLater ticks batch => exact driven batch ends

theorem course_refusal {config : Config} {folder : Folder} {effect last : Effect}
    {turns : List Turn} (course : Course config folder effect turns last) {outcome : Outcome}
    (refused : outcome.isRefusal = true) (ends : .finished outcome ∈ last.events) :
    .finished outcome ∈ effect.events := by
  induction course with
  | rest effect => exact ends
  | turn _ _ ih =>
    rcases List.mem_append.mp (ih ends) with before | now
    · exact before
    · rw [runJob_no_refusal _ _ _ _ _ now] at refused
      cases refused

namespace Session

def Accounted (session : Session) : Prop :=
  ∀ number < session.nextNumber, ∃ effect : Effect, effect.Balanced ∧ session.Shows number effect

theorem accounted_play {session : Session} (numbered : session.Numbered)
    (accounted : session.Accounted) (move : Move) : (session.play move).Accounted := by
  intro number made
  by_cases old : number < session.nextNumber
  · obtain ⟨effect, balanced, shown⟩ := accounted number old
    obtain ⟨last, course, shown⟩ := shows_play shown old move
    exact ⟨last, Effect.balanced_course course balanced, shown⟩
  · cases move with
    | enroll requester opening =>
      have here : number = session.nextNumber := by
        rw [nextNumber_play] at made
        simp only [Move.enrolls, if_true] at made
        omega
      rw [here]
      exact ⟨_, balanced_opening session opening, shows_enroll numbered requester opening⟩
    | run index clock => exact absurd (by simpa [nextNumber_play, Move.enrolls] using made) old
    | setRegistry names => exact absurd made old
    | setFiles files => exact absurd made old

theorem accounted_after {session : Session} (numbered : session.Numbered)
    (accounted : session.Accounted) (moves : List Move) : (session.after moves).Accounted := by
  induction moves generalizing session with
  | nil => exact accounted
  | cons move rest ih =>
    exact ih (numbered_play numbered move) (accounted_play numbered accounted move)

def settledOrOwned (session : Session) : Nat :=
  session.log.countP (·.event.isFinish) + session.queue.length

theorem settledOrOwned_record (session : Session) (ticket : Ticket) {effect : Effect}
    (balanced : effect.Balanced) :
    (session.record ticket effect).settledOrOwned = session.settledOrOwned + 1 := by
  have total := Effect.balanced_total balanced
  simp only [settledOrOwned, record, List.countP_append, List.countP_map, List.length_append,
    List.length_map, Function.comp_def]
  change session.log.countP _ + effect.events.countP Event.isFinish + _ = _
  omega

/-- Each request adds one to the ends and the waiting jobs together; running a job moves one from
the jobs to the jobs or the ends. -/
theorem settledOrOwned_play (session : Session) (move : Move) :
    (session.play move).settledOrOwned =
      session.settledOrOwned + if move.enrolls then 1 else 0 := by
  cases move with
  | enroll requester opening =>
    rw [play_enroll]
    exact settledOrOwned_record session _ (balanced_opening session opening)
  | run index clock =>
    cases found : session.queue[index]? with
    | none => rw [play_run_none clock found]; rfl
    | some task =>
      obtain ⟨bound, _⟩ := List.getElem?_eq_some_iff.mp found
      have taken : (session.queue.eraseIdx index).length + 1 = session.queue.length := by
        rw [List.length_eraseIdx_of_lt bound]
        omega
      have balanced : (session.effectOf clock task).Balanced := balanced_runJob _ _ _ _ _
      rw [play_run_some clock found, afterTask, settledOrOwned_record _ _ balanced]
      change session.log.countP _ + (session.queue.eraseIdx index).length + 1 =
        session.log.countP _ + session.queue.length + 0
      omega
  | setRegistry names => rfl
  | setFiles files => rfl

theorem settledOrOwned_after (session : Session) (moves : List Move) :
    (session.after moves).settledOrOwned =
      session.settledOrOwned + moves.countP Move.enrolls := by
  induction moves generalizing session with
  | nil => rfl
  | cons move rest ih =>
    rw [after_cons, ih, settledOrOwned_play, List.countP_cons]
    omega

theorem accounted_end_last {session : Session} (numbered : session.Numbered)
    (accounted : session.Accounted) {front back : List Entry} {entry : Entry}
    (split : session.log = front ++ entry :: back) (ends : entry.event.isFinish = true) :
    ∀ later ∈ back, later.ticket.number ≠ entry.ticket.number := by
  have made := numbered.logged entry (by
    rw [split]
    exact List.mem_append_right _ List.mem_cons_self)
  obtain ⟨effect, balanced, shown⟩ := accounted _ made
  have events := shown.events
  rw [eventsOf, split, List.filter_append, List.filter_cons_of_pos (by simp), List.map_append,
    List.map_cons] at events
  have nothing := Effect.balanced_end_last balanced events.symm ends
  intro later member same
  have kept : later ∈ back.filter (·.ticket.number = entry.ticket.number) :=
    List.mem_filter.mpr ⟨member, decide_eq_true same⟩
  rw [List.map_eq_nil_iff.mp nothing] at kept
  cases kept

theorem refused_at_once {session : Session} (numbered : session.Numbered)
    (requester : String) (opening : Opening) (later : List Move) {outcome : Outcome}
    (refused : outcome.isRefusal = true)
    (ends : .finished outcome ∈
      ((session.play (.enroll requester opening)).after later).eventsOf session.nextNumber) :
    (session.play (.enroll requester opening)).queue = session.queue ∧
      .finished outcome ∈
        (session.play (.enroll requester opening)).eventsOf session.nextNumber := by
  obtain ⟨last, course, shown⟩ := shows_enrolled numbered requester opening later
  rw [shown.events] at ends
  have opened := course_refusal course refused ends
  rw [(shows_enroll numbered requester opening).events]
  refine ⟨?_, opened⟩
  have no_job := Effect.balanced_finished (balanced_opening session opening) opened rfl
  rw [play_enroll]
  change session.queue ++ _ = _
  rw [no_job, Option.toList_none, List.map_nil, List.append_nil]

/-- In every session, a request has been finished once and owns no waiting job, or has not been
finished and owns one. So the requests are the ends and the waiting jobs together, refusals touch
no queue, and nothing follows an end. -/
theorem one_end_or_one_owner (config : Config) (folder : Folder) (files : Tree)
    (registry : List String) (moves : List Move) :
    let session := (idle config folder files registry).after moves
    (∀ number < moves.countP Move.enrolls,
      (session.eventsOf number).countP Event.isFinish = 1 ∧ session.jobsOf number = [] ∨
        (session.eventsOf number).countP Event.isFinish = 0 ∧
          (session.jobsOf number).length = 1) ∧
    (∀ task ∈ session.queue, task.ticket.number < moves.countP Move.enrolls) ∧
    moves.countP Move.enrolls =
      session.log.countP (·.event.isFinish) + session.queue.length ∧
    (∀ requester name later outcome, outcome.isRefusal = true →
      .finished outcome ∈
        ((session.request requester name).after later).eventsOf session.nextNumber →
      (session.request requester name).queue = session.queue ∧
        .finished outcome ∈ (session.request requester name).eventsOf session.nextNumber) ∧
    ∀ front entry back, session.log = front ++ entry :: back → entry.event.isFinish = true →
      ∀ later ∈ back, later.ticket.number ≠ entry.ticket.number := by
  intro session
  have first := numbered_idle config folder files registry
  have numbered : session.Numbered := numbered_after first moves
  have accounted : session.Accounted := by
    apply accounted_after first
    intro number made
    cases made
  have made : session.nextNumber = moves.countP Move.enrolls := by
    rw [nextNumber_after]
    exact Nat.zero_add _
  refine ⟨?_, ?_, ?_, ?_, ?_⟩
  · intro number bound
    obtain ⟨effect, balanced, shown⟩ := accounted number (by rwa [made])
    rw [shown.events, shown.jobs]
    exact Effect.balanced_counts balanced
  · intro task member
    rw [← made]
    exact numbered.waiting task member
  · have total := settledOrOwned_after (idle config folder files registry) moves
    rw [show (idle config folder files registry).settledOrOwned = 0 from rfl,
      Nat.zero_add] at total
    exact total.symm
  · intro requester name later outcome refused ends
    exact refused_at_once numbered requester (.request name) later refused ends
  · intro front entry back split ends
    exact accounted_end_last numbered accounted split ends

def quietConfig : Config where
  messages := { templates := [("success", ""), ("usage", "")] }

def greeting : InFlight where
  fileName := "greeting.batch"
  execution := { actions := [.command "say hello", .pause .zero, .command "say bye"] }

def overlapping : List Move :=
  [.enroll "first" (.start greeting),
    .enroll "second" (.start { fileName := "empty.batch", execution := { actions := [] } }),
    .run 0 (.still 0)]

theorem one_end_or_one_owner_overlapping :
    let session := (idle quietConfig ⟨"batches", ".batch"⟩ {} []).after overlapping
    let first : Ticket := ⟨0, "first"⟩
    let second : Ticket := ⟨1, "second"⟩
    (0 < overlapping.countP Move.enrolls ∧
      ((session.eventsOf 0).countP Event.isFinish = 1 ∧ session.jobsOf 0 = [] ∨
        (session.eventsOf 0).countP Event.isFinish = 0 ∧ (session.jobsOf 0).length = 1)) ∧
    (.finished .rejected ∈
        ((session.request "third" "").after []).eventsOf session.nextNumber ∧
      (session.request "third" "").queue = session.queue) ∧
    session.log =
      [⟨first, .dispatch .console "say hello"⟩] ++ ⟨second, .finished (.completed {})⟩ ::
        [⟨first, .dispatch .console "say bye"⟩,
          ⟨first, .finished (.completed { executed := 2 })⟩] ∧
    ∀ later ∈ [(⟨first, .dispatch .console "say bye"⟩ : Entry),
        ⟨first, .finished (.completed { executed := 2 })⟩], later.ticket.number ≠ 1 := by
  intro session first second
  obtain ⟨each, _, _, refused, ends⟩ :=
    one_end_or_one_owner quietConfig ⟨"batches", ".batch"⟩ {} [] overlapping
  have rejected : .finished .rejected ∈
      ((session.request "third" "").after []).eventsOf session.nextNumber := by decide
  refine ⟨⟨by decide, each 0 (by decide)⟩, ⟨rejected, ?_⟩, rfl, ?_⟩
  · exact (refused "third" "" [] .rejected rfl rejected).1
  · exact ends [⟨first, .dispatch .console "say hello"⟩] ⟨second, .finished (.completed {})⟩ _
      rfl rfl

end Session

end ConsoleBatch.Run
