import ConsoleBatch.Proofs.Ownership
import ConsoleBatch.Proofs.Stages

/-! A batch dispatches its commands in order, waits at its pauses, and counts what it did.

One block of commands is dispatched by each drive of the batch. Between two blocks the job chain of
the pause runs: one delayed job in ticks, a worker job and a primary job in real time. The proof
goes block by block along the course of the request. -/

namespace ConsoleBatch.Run

open Batch (Parsed)
open Decimal (Double)
open Files (Folder Tree)
open Message (Bindings Key)

def Event.command? : Event → Option String
  | dispatch _ command => some command
  | _ => none

def dispatchedIn (events : List Event) : List String :=
  events.filterMap Event.command?

/-- Where the jobs run that the pauses among some steps take. -/
def chainsOf (mode : TimerMode) : List Action → List Place
  | [] => []
  | .command _ :: rest => chainsOf mode rest
  | .pause seconds :: rest => pauseChain mode seconds ++ chainsOf mode rest

/-- What the events of a request owe the batch that it drives. -/
structure Faithful (mode : TimerMode) (batch : InFlight) (since : List Turn)
    (events : List Event) : Prop where
  in_order : dispatchedIn events <+: commandsIn batch.execution.remaining
  /-- Past a pause, the jobs of this pause and those before have run. -/
  waited : ∀ front seconds back, batch.execution.remaining = front ++ .pause seconds :: back →
    (commandsIn front).length < (dispatchedIn events).length →
      chainsOf mode (front ++ [.pause seconds]) <+: since.map Turn.place
  counted : ∀ summary, .finished (.completed summary) ∈ events →
    dispatchedIn events = commandsIn batch.execution.remaining ∧
      summary.executed = batch.execution.executed + (dispatchedIn events).length ∧
      summary.skipped = batch.execution.skipped
  completed : ∀ outcome, .finished outcome ∈ events → outcome.isCompleted = true

theorem dispatchedIn_append (first second : List Event) :
    dispatchedIn (first ++ second) = dispatchedIn first ++ dispatchedIn second :=
  List.filterMap_append

@[simp] theorem dispatchedIn_dispatches (commands : List String) :
    dispatchedIn (commands.map (.dispatch .console)) = commands := by
  induction commands with
  | nil => rfl
  | cons command rest ih => exact congrArg (command :: ·) ih

@[simp] theorem dispatchedIn_messages (texts : List String) :
    dispatchedIn (texts.map .message) = [] := by
  induction texts with
  | nil => rfl
  | cons text rest ih => exact ih

@[simp] theorem dispatchedIn_tell (config : Config) (key : Key) (bindings : Bindings) :
    dispatchedIn (tell config key bindings) = [] :=
  dispatchedIn_messages _

@[simp] theorem dispatchedIn_finished (outcome : Outcome) :
    dispatchedIn [.finished outcome] = [] := rfl

theorem dispatchedIn_closing (config : Config) (fileName : String) (deferred : List String)
    (summary : Summary) : dispatchedIn (closing config fileName deferred summary) = [] := by
  simp only [closing, dispatchedIn_append, dispatchedIn_messages, dispatchedIn_tell,
    dispatchedIn_finished, List.append_nil, List.nil_append]
  split
  · exact dispatchedIn_tell _ _ _
  · rfl

theorem dispatchedIn_refusal (config : Config) (error : LookupError) :
    dispatchedIn (refusal config error).events = [] := by
  cases error with
  | invalidName name =>
    simp only [refusal, dispatchedIn_append, dispatchedIn_finished, List.append_nil]
    split <;> exact dispatchedIn_tell _ _ _
  | notFound name =>
    simp only [refusal, dispatchedIn_append, dispatchedIn_finished, dispatchedIn_tell,
      List.append_nil]

theorem chainsOf_append (mode : TimerMode) (first second : List Action) :
    chainsOf mode (first ++ second) = chainsOf mode first ++ chainsOf mode second := by
  induction first with
  | nil => rfl
  | cons action rest ih =>
    cases action with
    | command text => exact ih
    | pause seconds =>
      change pauseChain mode seconds ++ chainsOf mode (rest ++ second) =
        pauseChain mode seconds ++ chainsOf mode rest ++ chainsOf mode second
      rw [ih, List.append_assoc]

@[simp] theorem chainsOf_block (mode : TimerMode) (commands : List String) :
    chainsOf mode (commands.map .command) = [] := by
  induction commands with
  | nil => rfl
  | cons command rest ih => exact ih

namespace Faithful

variable {mode : TimerMode} {batch next : InFlight} {commands : List String} {since : List Turn}
  {seconds : Double} {back : List Action} {events : List Event}

theorem at_end (config : Config) (left : batch.execution.remaining = commands.map .command) :
    Faithful mode batch [] (commands.map (.dispatch .console) ++
      closing config batch.fileName batch.deferred
        { executed := batch.execution.executed + commands.length
          skipped := batch.execution.skipped }) := by
  have finish : ∀ {outcome}, .finished outcome ∈ commands.map (Event.dispatch .console) ++
      closing config batch.fileName batch.deferred
        { executed := batch.execution.executed + commands.length
          skipped := batch.execution.skipped } →
      outcome = .completed
        { executed := batch.execution.executed + commands.length
          skipped := batch.execution.skipped } := by
    intro outcome member
    exact finished_closing (finished_behind (unfinished_dispatches _) member)
  constructor
  · rw [dispatchedIn_append, dispatchedIn_dispatches, dispatchedIn_closing, List.append_nil]
    exact ⟨[], by rw [left, commandsIn_block, List.append_nil]⟩
  · -- There is no pause left.
    intro front other back cut
    rw [left] at cut
    have member : Action.pause other ∈ commands.map Action.command := by
      rw [cut]
      exact List.mem_append_right _ List.mem_cons_self
    obtain ⟨command, _, same⟩ := List.mem_map.mp member
    cases same
  · intro summary member
    cases finish member
    rw [dispatchedIn_append, dispatchedIn_dispatches, dispatchedIn_closing, left, commandsIn_block,
      List.append_nil]
    exact ⟨rfl, rfl, rfl⟩
  · intro outcome member
    rw [finish member]
    rfl

theorem at_pause
    (left : batch.execution.remaining = commands.map .command ++ .pause seconds :: back) :
    Faithful mode batch since (commands.map (.dispatch .console)) := by
  constructor
  · rw [dispatchedIn_dispatches, left, commandsIn_append, commandsIn_block]
    exact List.prefix_append _ _
  · -- All that is dispatched stands before the first pause.
    intro front other rest cut more
    rw [left] at cut
    rw [dispatchedIn_dispatches] at more
    rcases block_before_pause cut with ⟨rfl, _⟩ | ⟨inner, rfl, _⟩
    · rw [commandsIn_block] at more
      exact absurd more (Nat.lt_irrefl _)
    · rw [commandsIn_append, commandsIn_block, List.length_append] at more
      omega
  · intro summary member
    cases unfinished_dispatches _ _ member
  · intro outcome member
    cases unfinished_dispatches _ _ member

theorem resumed {chain more : List Turn}
    (left : batch.execution.remaining = commands.map .command ++ .pause seconds :: back)
    (later : next.execution.remaining = back)
    (executed : next.execution.executed = batch.execution.executed + commands.length)
    (skipped : next.execution.skipped = batch.execution.skipped)
    (ran : chain.map Turn.place = pauseChain mode seconds)
    (faithful : Faithful mode next more events) :
    Faithful mode batch (chain ++ more) (commands.map (.dispatch .console) ++ events) := by
  have whole : commandsIn batch.execution.remaining =
      commands ++ commandsIn next.execution.remaining := by
    rw [left, commandsIn_append, commandsIn_block, commandsIn_pause, later]
  have dispatched : dispatchedIn (commands.map (.dispatch .console) ++ events) =
      commands ++ dispatchedIn events := by
    rw [dispatchedIn_append, dispatchedIn_dispatches]
  constructor
  · rw [dispatched, whole]
    exact (List.prefix_append_right_inj _).mpr faithful.in_order
  · intro front other rest cut past
    rw [dispatched, List.length_append] at past
    rw [left] at cut
    rw [List.map_append, ran, chainsOf_append]
    rcases block_before_pause cut with ⟨rfl, rfl, _⟩ | ⟨inner, rfl, split⟩
    · rw [chainsOf_block]
      simp only [chainsOf, List.nil_append, List.append_nil]
      exact List.prefix_append _ _
    · rw [commandsIn_append, commandsIn_block, commandsIn_pause, List.length_append] at past
      have chains := faithful.waited inner other rest (later.trans split) (by omega)
      rw [chainsOf_append] at chains
      rw [chainsOf_append, chainsOf_block, List.nil_append]
      change pauseChain mode seconds ++ chainsOf mode inner ++ _ <+: _
      rw [List.append_assoc]
      exact (List.prefix_append_right_inj _).mpr chains
  · intro summary member
    obtain ⟨all, executed', skipped'⟩ :=
      faithful.counted summary (finished_behind (unfinished_dispatches _) member)
    rw [dispatched, whole, all, executed', skipped', executed, skipped, List.length_append, all]
    exact ⟨rfl, by omega, rfl⟩
  · intro outcome member
    exact faithful.completed outcome (finished_behind (unfinished_dispatches _) member)

theorem told (texts : List String) (faithful : Faithful mode batch since events) :
    Faithful mode batch since (texts.map .message ++ events) := by
  have dispatched : dispatchedIn (texts.map .message ++ events) = dispatchedIn events := by
    rw [dispatchedIn_append, dispatchedIn_messages, List.nil_append]
  constructor
  · rw [dispatched]
    exact faithful.in_order
  · rw [dispatched]
    exact faithful.waited
  · intro summary member
    rw [dispatched]
    exact faithful.counted summary (finished_behind (unfinished_messages _) member)
  · intro outcome member
    exact faithful.completed outcome (finished_behind (unfinished_messages _) member)

end Faithful

variable {config : Config} {folder : Folder}

theorem faithful_drive {batch : InFlight} {last : Effect} {since : List Turn}
    (course : Course config folder (drive config batch) since last) :
    Faithful config.settings.timerMode batch since last.events := by
  rcases block_split batch.execution.remaining with
    ⟨commands, left⟩ | ⟨commands, seconds, back, left⟩
  · rw [drive_ends config left] at course
    obtain ⟨rfl, rfl⟩ := course.ended rfl
    exact .at_end config left
  · obtain ⟨execution, driven, later, executed, skipped⟩ := drive_pauses config left
    rw [driven] at course
    rcases course_resumption rfl course with waiting | ⟨chain, more, own, rfl, ran, onward, rfl⟩
    · rw [waiting]
      exact .at_pause left
    · have shorter : execution.remaining.length < batch.execution.remaining.length := by
        rw [later, left, List.length_append, List.length_cons]
        omega
      exact .resumed left later executed skipped ran (faithful_drive onward)
termination_by batch.execution.remaining.length

/-- The batch that a request has become, and its turns since then: for a file, the batch that the
file was at the turn that read it. -/
inductive Opening.Becomes (session : Session) :
    Opening → List Turn → InFlight → List Turn → Prop
  | start (batch : InFlight) (turns : List Turn) :
      Opening.Becomes session (.start batch) turns batch turns
  | file {name fileName : String} {parsed : Parsed} {reading second : Turn} {since : List Turn}
      (looked : session.folder.locate session.files name = .ok fileName)
      (job : reading.job = .read fileName (session.registry.map Text.lowered))
      (read : parsedAt? session.config session.folder fileName
        (session.registry.map Text.lowered) reading = some parsed) :
      Opening.Becomes session (.request name) (reading :: second :: since)
        (.ofParsed session.config fileName parsed) since

theorem becomes_unique {session : Session} {opening : Opening} {turns since since' : List Turn}
    {batch batch' : InFlight} (first : opening.Becomes session turns batch since)
    (second : opening.Becomes session turns batch' since') : batch = batch' ∧ since = since' := by
  cases first with
  | start => cases second; exact ⟨rfl, rfl⟩
  | file looked _ read =>
    cases second with
    | file looked' _ read' =>
      obtain rfl := Except.ok.inj (looked.symm.trans looked')
      obtain rfl := Option.some.inj (read.symm.trans read')
      exact ⟨rfl, rfl⟩

theorem becomes_read {session : Session} {name : String} {turns since : List Turn}
    {batch : InFlight} (becomes : (Opening.request name).Becomes session turns batch since) :
    ∃ reading ∈ turns, ∃ fileName parsed,
      reading.job = .read fileName (session.registry.map Text.lowered) ∧
      parsedAt? session.config session.folder fileName (session.registry.map Text.lowered)
        reading = some parsed ∧
      batch = .ofParsed session.config fileName parsed := by
  cases becomes with
  | file _ job read => exact ⟨_, List.mem_cons_self, _, _, job, read, rfl⟩

/-- The events of a request are those of its batch, or they dispatch nothing. -/
theorem faithful_opening {session : Session} {opening : Opening} {last : Effect}
    {turns : List Turn}
    (course : Course session.config session.folder (opening.effect session) turns last) :
    (∃ batch since, opening.Becomes session turns batch since ∧
      Faithful session.config.settings.timerMode batch since last.events) ∨
      dispatchedIn last.events = [] ∧
        ∀ batch since, ¬ opening.Becomes session turns batch since := by
  cases opening with
  | start batch => exact .inl ⟨batch, turns, .start batch turns, faithful_drive course⟩
  | request name =>
    cases looked : session.folder.locate session.files name with
    | error error =>
      rw [request_refused looked] at course
      have refused : (refusal session.config error).next = none := by cases error <;> rfl
      obtain ⟨rfl, rfl⟩ := course.ended refused
      refine .inr ⟨dispatchedIn_refusal _ _, ?_⟩
      intro batch since becomes
      cases becomes
    | ok fileName =>
      rw [request_accepted looked] at course
      rcases course_reading rfl course with
        ⟨early, silent⟩ | ⟨reading, second, since, own, rfl, job, next, onward, rfl⟩
      · rw [silent]
        refine .inr ⟨dispatchedIn_tell _ _ _, ?_⟩
        intro batch since becomes
        cases becomes
        simp only [List.length_cons] at early
        omega
      · rcases effect_afterReading next with
          ⟨unread, key, bindings, outcome, _, effect⟩ | ⟨parsed, read, effect⟩
        · rw [effect] at onward
          obtain ⟨rfl, rfl⟩ := onward.ended rfl
          refine .inr ⟨?_, ?_⟩
          · simp only [Effect.followedBy, dispatchedIn_append, dispatchedIn_tell,
              dispatchedIn_finished, List.append_nil]
          · intro batch since becomes
            cases becomes with
            | file looked' _ read =>
              obtain rfl := Except.ok.inj (looked.symm.trans looked')
              cases unread.symm.trans read
        · rw [effect] at onward
          obtain ⟨driven, executed, rfl⟩ := onward.behind
          exact .inl ⟨_, since, .file looked job read, .told _ (.told _ (faithful_drive executed))⟩

namespace Session

/-- In every session, each batch that a request becomes is dispatched faithfully, a request that
becomes none dispatches nothing, and neither does one that ends without being completed. -/
theorem dispatch_fidelity (config : Config) (folder : Folder) (files : Tree)
    (registry : List String) (before later : List Move) (requester : String)
    (opening : Opening) :
    let opened := (idle config folder files registry).after before
    let started := opened.play (.enroll requester opening)
    let turns := started.turns opened.nextNumber later
    let events := (started.after later).eventsOf opened.nextNumber
    (∀ batch since, opening.Becomes opened turns batch since →
      Faithful config.settings.timerMode batch since events) ∧
    ((∀ batch since, ¬ opening.Becomes opened turns batch since) → dispatchedIn events = []) ∧
    ∀ outcome, .finished outcome ∈ events → outcome.isCompleted = false →
      dispatchedIn events = [] := by
  intro opened started turns events
  obtain ⟨last, course, shown⟩ :=
    course_of_opening config folder files registry before later requester opening
  have same_config : opened.config = config := config_after _ _
  have here : events = last.events := shown
  rw [here]
  rcases faithful_opening course with ⟨batch, since, becomes, faithful⟩ | ⟨silent, none_become⟩
  · rw [same_config] at faithful
    refine ⟨?_, ?_, ?_⟩
    · intro batch' since' becomes'
      obtain ⟨rfl, rfl⟩ := becomes_unique becomes becomes'
      exact faithful
    · intro none_become
      exact absurd becomes (none_become batch since)
    · intro outcome member incomplete
      rw [faithful.completed outcome member] at incomplete
      cases incomplete
  · refine ⟨?_, fun _ => silent, fun _ _ _ => silent⟩
    intro batch since becomes
    exact absurd becomes (none_become batch since)

theorem dispatch_fidelity_overlapping :
    let opened := idle quietConfig ⟨"batches", ".batch"⟩ {} []
    let started := opened.play (.enroll "first" (.start greeting))
    let turns := started.turns 0 overlapping.tail
    let events := (started.after overlapping.tail).eventsOf 0
    (Opening.start greeting).Becomes opened turns greeting turns ∧
      events = [.dispatch .console "say hello", .dispatch .console "say bye",
        .finished (.completed { executed := 2 })] ∧
      Faithful .ticks greeting turns events := by
  intro opened started turns events
  have becomes : (Opening.start greeting).Becomes opened turns greeting turns := .start _ _
  obtain ⟨faithful, _, _⟩ := dispatch_fidelity quietConfig ⟨"batches", ".batch"⟩ {} [] []
    overlapping.tail "first" (.start greeting)
  exact ⟨becomes, rfl, faithful greeting turns becomes⟩

end Session

end ConsoleBatch.Run
