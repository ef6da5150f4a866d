import ConsoleBatch.Proofs.Deadline
import ConsoleBatch.Proofs.Safety
import Mathlib.Data.List.Forall2

/-! Two requests that find the same come to the same, whatever goes on around them.

The courses of the two requests are run side by side. What their jobs hold is alike at every step:
the known commands are the same set, the batch is the same, and only the timing report that debug
mode adds may tell other times. -/

namespace ConsoleBatch

theorem Message.Catalog.message_once (catalog : Message.Catalog) (key : Message.Key) :
    (∀ bindings, catalog.message key bindings = []) ∨
      ∃ text : Message.Bindings → String,
        ∀ bindings, catalog.message key bindings = [text bindings] := by
  by_cases silent : catalog.template key.name = ""
  · refine .inl ?_
    intro bindings
    simp [message, render, silent]
  · refine .inr ⟨substitute (catalog.opening ++ catalog.template key.name), ?_⟩
    intro bindings
    simp [message, render, silent]

theorem Message.Catalog.message_report (report : String) :
    ({} : Message.Catalog).message .timingReport [("report", report)] = [report] := by
  have names : (fun name => (List.lookup name [("report", report)]).isSome) = (· == "report") := by
    funext name
    cases same : name == "report" <;> simp [List.lookup_cons, same]
  have pieces : Message.cut (· == "report") "<report>".toList = [.tag "report"] := by
    decide +kernel
  have template : ({} : Message.Catalog).template Message.Key.timingReport.name = "<report>" := by
    decide +kernel
  have whole : ({} : Message.Catalog).opening ++ "<report>" = "<report>" := rfl
  rw [message, render, template, if_neg (by decide), whole,
    substitute, names, pieces]
  simp [fill]

namespace Lint.Timings

theorem report_single (check : Check) (nanos : Nat) :
    ∃ back, (single check nanos).report.toList =
      ("\n".intercalate ["Lint Timings:", column 15 "Check" ++ " | " ++ column 15 "Duration" ++
          " | " ++ column 10 "%", rule, column 15 check.name] ++ " | ").toList ++
        ((column 15 (durationText nanos)).toList ++ back) := by
  have entries : (single check nanos).entries = [(check, nanos)] := by
    cases check <;> rfl
  have filled : (single check nanos).isEmpty = false := by
    rw [isEmpty, entries]
    rfl
  unfold report
  rw [filled, entries]
  simp [row]

theorem report_single_ne (check : Check) {nanos nanos' : Nat}
    (width : (column 15 (durationText nanos)).toList.length =
      (column 15 (durationText nanos')).toList.length)
    (other : column 15 (durationText nanos) ≠ column 15 (durationText nanos')) :
    (single check nanos).report ≠ (single check nanos').report := by
  intro same
  obtain ⟨back, here⟩ := report_single check nanos
  obtain ⟨back', there⟩ := report_single check nanos'
  rw [same, there] at here
  have rows := List.append_cancel_left here
  exact other (String.toList_inj.mp (List.append_inj_left rows width.symm).symm)

end Lint.Timings

namespace Run

open Batch (Parsed lintTime)
open Files (Folder Tree)
open Lint (KeptBySums Clock Timings)

variable {alike : Nat → Nat → Prop} {config : Config} {folder folder' : Folder}

inductive Event.Alike (alike : Nat → Nat → Prop) (config : Config) : Event → Event → Prop
  | same (event : Event) : Event.Alike alike config event event
  | report {timings timings' : Timings} {text text' : String}
      (debug : config.linter.execution.debugMode = true)
      (times : Timings.Alike alike timings timings')
      (told : text ∈ config.messages.message .timingReport [("report", timings.report)])
      (told' : text' ∈ config.messages.message .timingReport [("report", timings'.report)]) :
      Event.Alike alike config (.message text) (.message text')

def EventsAlike (alike : Nat → Nat → Prop) (config : Config) : List Event → List Event → Prop :=
  List.Forall₂ (Event.Alike alike config)

inductive InFlight.Alike (alike : Nat → Nat → Prop) (config : Config) : InFlight → InFlight → Prop
  | deferring (batch : InFlight) {deferred : List String}
      (told : EventsAlike alike config (batch.deferred.map .message) (deferred.map .message)) :
      InFlight.Alike alike config batch { batch with deferred }

inductive Job.Alike (alike : Nat → Nat → Prop) (config : Config) : Job → Job → Prop
  | read (fileName : String) {known known' : List String}
      (same : ∀ name, name ∈ known ↔ name ∈ known') :
      Job.Alike alike config (.read fileName known) (.read fileName known')
  | reportUnreadable : Job.Alike alike config .reportUnreadable .reportUnreadable
  | begin (fileName : String) {parsed parsed' : Option Parsed}
      (batches : Option.Rel (Parsed.Alike alike) parsed parsed') :
      Job.Alike alike config (.begin fileName parsed) (.begin fileName parsed')
  | wait (millis : Nat) {batch batch' : InFlight} (batches : batch.Alike alike config batch') :
      Job.Alike alike config (.wait millis batch) (.wait millis batch')
  | resume {batch batch' : InFlight} (batches : batch.Alike alike config batch') :
      Job.Alike alike config (.resume batch) (.resume batch')
  | resumeLater (ticks : Nat) {batch batch' : InFlight}
      (batches : batch.Alike alike config batch') :
      Job.Alike alike config (.resumeLater ticks batch) (.resumeLater ticks batch')

structure Effect.Alike (alike : Nat → Nat → Prop) (config : Config) (effect effect' : Effect) :
    Prop where
  events : EventsAlike alike config effect.events effect'.events
  next : Option.Rel (Job.Alike alike config) effect.next effect'.next

/-- Two turns that find the same under a file name, if they look for it, and lint in step. -/
structure Turn.Agrees (alike : Nat → Nat → Prop) (config : Config) (folder folder' : Folder)
    (fileName : String) (turn turn' : Turn) : Prop where
  found : (folder.read turn.files fileName).toOption = (folder'.read turn'.files fileName).toOption
  together : Clock.InStep alike (turn.clock.now + lintTime config)
    (turn'.clock.now + lintTime config) turn.clock turn'.clock

theorem eventsAlike_refl (events : List Event) : EventsAlike alike config events events := by
  apply List.forall₂_same.mpr
  intro event _
  exact .same event

theorem eventsAlike_append {first first' second second' : List Event}
    (left : EventsAlike alike config first first')
    (right : EventsAlike alike config second second') :
    EventsAlike alike config (first ++ second) (first' ++ second') :=
  List.rel_append left right

theorem deferredMessages_alike (config : Config) (fileName : String) {parsed parsed' : Parsed}
    (batches : parsed.Alike alike parsed') :
    EventsAlike alike config ((Batch.deferredMessages config fileName parsed).map .message)
      ((Batch.deferredMessages config fileName parsed').map .message) := by
  obtain ⟨timings', times⟩ := batches
  unfold Batch.deferredMessages
  rw [List.map_append, List.map_append]
  refine eventsAlike_append (eventsAlike_refl _) ?_
  split
  · rename_i debug
    rcases config.messages.message_once .timingReport with silent | ⟨text, told⟩
    · rw [silent, silent]
      exact .nil
    · have here := told [("report", parsed.timings.report)]
      have there := told [("report", timings'.report)]
      rw [here, there]
      exact .cons (.report debug times (by simp [here]) (by simp [there])) .nil
  · exact .nil

theorem drive_alike {batch batch' : InFlight} (batches : batch.Alike alike config batch') :
    (drive config batch).Alike alike config (drive config batch') := by
  obtain @⟨deferred, told⟩ := batches
  unfold drive
  dsimp only
  split
  · refine ⟨eventsAlike_refl _, .some ?_⟩
    cases config.settings.timerMode with
    | ticks => exact .resumeLater _ (.deferring _ told)
    | realtime => exact .wait _ (.deferring _ told)
  · refine ⟨eventsAlike_append (eventsAlike_refl _) ?_, .none⟩
    unfold closing
    exact eventsAlike_append (eventsAlike_append (eventsAlike_append told (eventsAlike_refl _))
      (eventsAlike_refl _)) (eventsAlike_refl _)

theorem beginBatch_alike (fileName : String) {parsed parsed' : Option Parsed}
    (batches : Option.Rel (Parsed.Alike alike) parsed parsed') :
    (beginBatch config fileName parsed).Alike alike config
      (beginBatch config fileName parsed') := by
  cases batches with
  | none => exact ⟨eventsAlike_refl _, .none⟩
  | @some parsed _ batches =>
    have deferred := deferredMessages_alike config fileName batches
    obtain ⟨timings', times⟩ := batches
    have driven := drive_alike (.deferring (.ofParsed config fileName parsed) deferred)
    exact ⟨eventsAlike_append (eventsAlike_refl _) driven.events, driven.next⟩

theorem runJob_alike (adds : KeptBySums alike) {turn turn' : Turn}
    (jobs : turn.job.Alike alike config turn'.job)
    (agrees : ∀ fileName known known', turn.job = .read fileName known →
      turn'.job = .read fileName known' → turn.Agrees alike config folder folder' fileName turn') :
    (turn.effect config folder).Alike alike config (turn'.effect config folder') := by
  obtain ⟨job, files, clock⟩ := turn
  obtain ⟨job', files', clock'⟩ := turn'
  cases jobs with
  | read fileName same =>
    obtain ⟨found, together⟩ := agrees fileName _ _ rfl rfl
    refine ⟨.nil, .some ?_⟩
    dsimp only at found
    generalize folder.read files fileName = here, folder'.read files' fileName = there at found
    cases here with
    | error error =>
      cases there with
      | error error => exact .reportUnreadable
      | ok content => cases found
    | ok content =>
      cases there with
      | error error => cases found
      | ok content' =>
        obtain rfl := Option.some.inj found
        exact .begin fileName (Batch.parse_alike adds config same content together)
  | reportUnreadable => exact ⟨eventsAlike_refl _, .none⟩
  | begin fileName batches => exact beginBatch_alike fileName batches
  | wait millis batches => exact ⟨.nil, .some (.resume batches)⟩
  | resume batches => exact drive_alike batches
  | resumeLater ticks batches => exact drive_alike batches

/-- Whatever file two requests read, they find the same, and lint in step. -/
def ReadingsAgree (alike : Nat → Nat → Prop) (config : Config) (folder folder' : Folder)
    (turns turns' : List Turn) : Prop :=
  ∀ turn ∈ turns, ∀ turn' ∈ turns', ∀ fileName known known',
    turn.job = .read fileName known → turn'.job = .read fileName known' →
      turn.Agrees alike config folder folder' fileName turn'

theorem course_alike (adds : KeptBySums alike) {effect effect' last last' : Effect}
    {turns turns' : List Turn} (course : Course config folder effect turns last)
    (course' : Course config folder' effect' turns' last')
    (same_length : turns.length = turns'.length)
    (agree : ReadingsAgree alike config folder folder' turns turns')
    (effects : effect.Alike alike config effect') : last.Alike alike config last' := by
  induction course generalizing effect' turns' with
  | rest effect =>
    cases course' with
    | rest => exact effects
    | turn => cases same_length
  | @turn effect last turn more due onward ih =>
    cases course' with
    | rest => cases same_length
    | @turn _ _ turn' more' due' onward' =>
      have next := effects.next
      rw [due, due'] at next
      cases next with
      | some jobs =>
        have step := runJob_alike adds jobs
          (agree turn List.mem_cons_self turn' List.mem_cons_self)
        apply ih onward' (Nat.succ.inj same_length)
        · intro other member other' member'
          exact agree other (List.mem_cons_of_mem _ member) other' (List.mem_cons_of_mem _ member')
        · exact ⟨eventsAlike_append effects.events step.events, step.next⟩

theorem request_alike {session session' : Session} (same_config : session.config = session'.config)
    {name : String} (same_lookup : session.folder.locate session.files name =
      session'.folder.locate session'.files name)
    (same_registry : ∀ command, command ∈ session.registry ↔ command ∈ session'.registry) :
    ((Opening.request name).effect session).Alike alike session.config
      ((Opening.request name).effect session') := by
  cases looked : session.folder.locate session.files name with
  | error error =>
    rw [request_refused looked, request_refused (same_lookup.symm.trans looked), same_config]
    refine ⟨eventsAlike_refl _, ?_⟩
    cases error <;> exact .none
  | ok fileName =>
    rw [request_accepted looked, request_accepted (same_lookup.symm.trans looked), same_config]
    refine ⟨eventsAlike_refl _, .some (.read fileName ?_)⟩
    intro command
    simp only [List.mem_map, same_registry]

theorem timings_eq {timings timings' : Timings} (times : Timings.Alike Eq timings timings') :
    timings = timings' := by
  apply Timings.ext_get?
  intro check
  have entry := times check
  generalize timings.get? check = one, timings'.get? check = two at entry ⊢
  cases entry with
  | none => rfl
  | some same => rw [same]

theorem events_eq {events events' : List Event}
    (equal : ∀ event event', Event.Alike alike config event event' → event = event')
    (events_alike : EventsAlike alike config events events') : events = events' := by
  have pointwise := events_alike.imp equal
  rwa [List.forall₂_eq_eq_eq] at pointwise

theorem event_eq_of_times {event event' : Event} (events : Event.Alike Eq config event event') :
    event = event' := by
  cases events with
  | same => rfl
  | report debug times told told' =>
    obtain rfl := timings_eq times
    rcases config.messages.message_once .timingReport with silent | ⟨text, once⟩
    · rw [silent] at told
      cases told
    · rw [once] at told told'
      rw [List.mem_singleton.mp told, List.mem_singleton.mp told']

theorem event_eq_of_silence {event event' : Event}
    (silent : config.linter.execution.debugMode = false)
    (events : Event.Alike alike config event event') : event = event' := by
  cases events with
  | same => rfl
  | report debug =>
    rw [silent] at debug
    cases debug

namespace Session

/-- Two requests for the same name, in any two sessions with the same configuration, that find the
same when they are made and when their file is read, come to the same after as many jobs of their
own. Nothing else has a part in it. The times in the timing report of debug mode are those that
were measured; all events are equal if debug mode is off, or if the same times are measured. -/
theorem requests_isolated (config : Config) (folder folder' : Folder) (files files' : Tree)
    (registry registry' : List String) (before before' later later' : List Move)
    (requester requester' name : String) :
    let opened := (idle config folder files registry).after before
    let opened' := (idle config folder' files' registry').after before'
    let requested := opened.request requester name
    let requested' := opened'.request requester' name
    let turns := requested.turns opened.nextNumber later
    let turns' := requested'.turns opened'.nextNumber later'
    let events := (requested.after later).eventsOf opened.nextNumber
    let events' := (requested'.after later').eventsOf opened'.nextNumber
    folder.locate opened.files name = folder'.locate opened'.files name →
    (∀ command, command ∈ opened.registry ↔ command ∈ opened'.registry) →
    turns.length = turns'.length →
    ReadingsAgree (fun _ _ => True) config folder folder' turns turns' →
    EventsAlike (fun _ _ => True) config events events' ∧
      (config.linter.execution.debugMode = false → events = events') ∧
      (ReadingsAgree Eq config folder folder' turns turns' → events = events') := by
  intro opened opened' requested requested' turns turns' events events' same_lookup same_registry
    same_length agree
  have same_config : opened.config = config := config_after _ _
  have same_config' : opened'.config = config := config_after _ _
  have same_folder : opened.folder = folder := folder_after _ _
  have same_folder' : opened'.folder = folder' := folder_after _ _
  obtain ⟨last, course, shown⟩ :=
    course_of_opening config folder files registry before later requester (.request name)
  obtain ⟨last', course', shown'⟩ :=
    course_of_opening config folder' files' registry' before' later' requester' (.request name)
  have here : events = last.events := shown
  have there : events' = last'.events := shown'
  rw [config_after, folder_after] at course course'
  have side_by_side : ∀ {alike}, KeptBySums alike →
      ReadingsAgree alike config folder folder' turns turns' →
        EventsAlike alike config events events' := by
    intro alike adds agree
    have opening : ((Opening.request name).effect opened).Alike alike config
        ((Opening.request name).effect opened') := by
      rw [← same_config]
      apply request_alike (same_config.trans same_config'.symm) _ same_registry
      rw [same_folder, same_folder']
      exact same_lookup
    rw [here, there]
    exact (course_alike adds course course' same_length agree opening).events
  have alike := side_by_side (fun _ _ => trivial) agree
  refine ⟨alike, ?_, ?_⟩
  · intro silent
    exact events_eq (fun _ _ => event_eq_of_silence silent) alike
  · intro same_times
    have sums : KeptBySums (Eq : Nat → Nat → Prop) := by
      intro first first' second second' left right
      rw [left, right]
    exact events_eq (fun _ _ => event_eq_of_times) (side_by_side sums same_times)

theorem requests_isolated_greet :
    let opened := idle unlinted ⟨".", ".batch"⟩ shelf ["say", "tell"]
    let opened' := (idle unlinted ⟨".", ".batch"⟩ shelf ["tell", "say", "say"]).after
      [.enroll "other" (.start greeting)]
    let later : List Move := [.run 0 (.still 0), .run 0 (.still 0)]
    let later' : List Move :=
      [.run 1 (.still 0), .setRegistry [], .run 0 (.still 5), .run 0 (.still 0), .setFiles {}]
    let events := ((opened.request "first" "greet").after later).eventsOf 0
    let events' := ((opened'.request "second" "greet").after later').eventsOf 1
    events = events' ∧ .dispatch .console "say hi" ∈ events := by
  intro opened opened' later later' events events'
  have first : opened.request "first" "greet" = opened.enroll "first"
      { events := tell unlinted .executionStarted [("filename", "greet.batch")]
        next := some (.read "greet.batch" (["say", "tell"].map Text.lowered)) } :=
    congrArg (opened.enroll "first") (request_accepted locate_greet)
  have second : opened'.request "second" "greet" = opened'.enroll "second"
      { events := tell unlinted .executionStarted [("filename", "greet.batch")]
        next := some (.read "greet.batch" (["tell", "say", "say"].map Text.lowered)) } :=
    congrArg (opened'.enroll "second") (request_accepted locate_greet)
  have turns : ∀ turn ∈ (opened.request "first" "greet").turns 0 later,
      turn.files = shelf ∧ turn.clock = .still 0 := by
    rw [first]
    intro turn member
    change turn ∈ [_, _] at member
    rcases List.mem_pair.mp member with rfl | rfl <;> exact ⟨rfl, rfl⟩
  have turns' : ∀ turn ∈ (opened'.request "second" "greet").turns 1 later',
      turn.files = shelf ∧ turn.clock = .still 0 := by
    rw [second]
    intro turn member
    change turn ∈ [_, _] at member
    rcases List.mem_pair.mp member with rfl | rfl <;> exact ⟨rfl, rfl⟩
  have two : ((opened.request "first" "greet").turns 0 later).length = 2 := by
    rw [first]
    rfl
  have two' : ((opened'.request "second" "greet").turns 1 later').length = 2 := by
    rw [second]
    rfl
  have same_registry : ∀ command : String, command ∈ ["say", "tell"] ↔
      command ∈ ["tell", "say", "say"] := by
    intro command
    simp [or_comm]
  have agree : ∀ {alike : Nat → Nat → Prop}, (∀ time, alike time time) →
      ReadingsAgree alike unlinted ⟨".", ".batch"⟩ ⟨".", ".batch"⟩
        ((opened.request "first" "greet").turns 0 later)
        ((opened'.request "second" "greet").turns 1 later') := by
    intro alike reflexive turn member turn' member' fileName _ _ _ _
    obtain ⟨files, clock⟩ := turns turn member
    obtain ⟨files', clock'⟩ := turns' turn' member'
    constructor
    · rw [files, files']
    · rw [clock, clock']
      exact ⟨fun _ => Iff.rfl, fun _ => reflexive _⟩
  obtain ⟨_, equal, _⟩ := requests_isolated unlinted ⟨".", ".batch"⟩ ⟨".", ".batch"⟩ shelf shelf
    ["say", "tell"] ["tell", "say", "say"] [] [.enroll "other" (.start greeting)] later later'
    "first" "second" "greet" rfl same_registry (two.trans two'.symm) (agree fun _ => trivial)
  exact ⟨equal rfl, by decide +kernel⟩

end Session

theorem request_alone {config : Config} {folder : Folder} {files : Tree} {registry : List String}
    {requester name fileName content : String} (looked : folder.locate files name = .ok fileName)
    (read : folder.read files fileName = .ok content) (clock : Clock) :
    let requested := (Session.idle config folder files registry).request requester name
    let known := registry.map Text.lowered
    let parsed := Batch.parse config known content clock
    requested.turns 0 [.run 0 clock, .run 0 clock] =
        [⟨.read fileName known, files, clock⟩, ⟨.begin fileName parsed, files, clock⟩] ∧
      (requested.after [.run 0 clock, .run 0 clock]).eventsOf 0 =
        tell config .executionStarted [("filename", fileName)] ++
          (beginBatch config fileName parsed).events := by
  intro requested known parsed
  have opened : requested = (Session.idle config folder files registry).enroll requester
      { events := tell config .executionStarted [("filename", fileName)]
        next := some (.read fileName known) } :=
    congrArg ((Session.idle config folder files registry).enroll requester)
      (request_accepted looked)
  have turns : requested.turns 0 [.run 0 clock, .run 0 clock] =
      [⟨.read fileName known, files, clock⟩, ⟨.begin fileName parsed, files, clock⟩] := by
    rw [opened]
    change [_, Turn.mk (afterReading config fileName known clock (folder.read files fileName)) files
      clock] = _
    rw [read]
    rfl
  refine ⟨turns, ?_⟩
  have accepted : (Opening.request name).effect (Session.idle config folder files registry) = _ :=
    request_accepted looked
  obtain ⟨last, course, shown⟩ := Session.shows_enrolled
    (Session.numbered_idle config folder files registry) requester (.request name)
    [.run 0 clock, .run 0 clock]
  rw [accepted] at course
  have course : Course config folder _ (requested.turns 0 [.run 0 clock, .run 0 clock]) last :=
    course
  rw [turns] at course
  refine Eq.trans shown.events ?_
  cases course with
  | turn _ onward =>
    cases onward with
    | turn _ onward =>
      cases onward with
      | rest =>
        simp [Effect.followedBy, Turn.effect, runJob]
        rfl

/-- A clock that stands still until the first check is over. -/
def slowCheck (nanos : Nat) : Clock where
  readings taken := if taken < 3 then 0 else nanos

def reporting : Config where
  linter.execution := { lintOrder := [.blacklist], debugMode := true }

def helloShelf : Tree where
  entries := [(["hi.batch"], .file "say hi".toUTF8)]

def helloBatch (nanos : Nat) : Parsed where
  actions := [.command "say hi"]
  skipped := 0
  warnings := []
  timings := .single .blacklist nanos
  lintTimedOut := false

def helloRequest : Session :=
  (Session.idle reporting ⟨".", ".batch"⟩ helloShelf []).request "first" "hi"

def twice (clock : Clock) : List Move :=
  [.run 0 clock, .run 0 clock]

theorem hello_alone (clock : Clock) :
    helloRequest.turns 0 (twice clock) =
        [⟨.read "hi.batch" [], helloShelf, clock⟩,
          ⟨.begin "hi.batch" (Batch.parse reporting [] "say hi" clock), helloShelf, clock⟩] ∧
      (helloRequest.after (twice clock)).eventsOf 0 =
        tell reporting .executionStarted [("filename", "hi.batch")] ++
          (beginBatch reporting "hi.batch" (Batch.parse reporting [] "say hi" clock)).events := by
  have looked : (⟨".", ".batch"⟩ : Folder).locate helloShelf "hi" = .ok "hi.batch" :=
    ok_of_toOption (by decide +kernel)
  have read : (⟨".", ".batch"⟩ : Folder).read helloShelf "hi.batch" = .ok "say hi" :=
    ok_of_toOption (by decide +kernel)
  exact request_alone looked read clock

theorem hello_told {clock : Clock} {nanos : Nat}
    (parsed : Batch.parse reporting [] "say hi" clock = some (helloBatch nanos)) :
    (helloRequest.after (twice clock)).eventsOf 0 =
      tell reporting .executionStarted [("filename", "hi.batch")] ++
        ([.dispatch .console "say hi"] ++
          closing reporting "hi.batch" [(Timings.single .blacklist nanos).report] ⟨1, 0⟩) := by
  have deferred : Batch.deferredMessages reporting "hi.batch" (helloBatch nanos) =
      [(Timings.single .blacklist nanos).report] :=
    Message.Catalog.message_report _
  have begun : (beginBatch reporting "hi.batch" (some (helloBatch nanos))).events =
      [.dispatch .console "say hi"] ++ closing reporting "hi.batch"
        (Batch.deferredMessages reporting "hi.batch" (helloBatch nanos)) ⟨1, 0⟩ := rfl
  rw [(hello_alone clock).2, parsed, begun, deferred]

/-- In debug mode, a request is told the times that were measured. Two sessions in which everything
is the same but for these, and in which the deadline never comes, come to other events. -/
theorem measured_times_told :
    let turns (clock : Clock) := helloRequest.turns 0 (twice clock)
    let events (clock : Clock) := (helloRequest.after (twice clock)).eventsOf 0
    (Clock.still 0).Settled False (lintTime reporting) ∧
      (slowCheck 1000).Settled False (lintTime reporting) ∧
      (turns (.still 0)).length = (turns (slowCheck 1000)).length ∧
      ReadingsAgree (fun _ _ => True) reporting ⟨".", ".batch"⟩ ⟨".", ".batch"⟩ (turns (.still 0))
        (turns (slowCheck 1000)) ∧
      events (.still 0) ≠ events (slowCheck 1000) := by
  intro turns events
  have still : (Clock.still 0).Settled False (lintTime reporting) := by
    intro later
    change 0 + lintTime reporting ≤ 0 ↔ False
    decide
  have slow : (slowCheck 1000).Settled False (lintTime reporting) := by
    intro later
    have ahead : 1000 < 0 + lintTime reporting := by decide
    have shown : (slowCheck 1000).look (later + 1) ≤ 1000 := by
      simp only [slowCheck, Clock.look]
      split <;> omega
    refine iff_false_intro ?_
    change ¬ 0 + lintTime reporting ≤ _
    omega
  have alone := fun clock => (hello_alone clock).1
  refine ⟨still, slow, ?_, ?_, ?_⟩
  · change (helloRequest.turns 0 _).length = (helloRequest.turns 0 _).length
    rw [alone, alone]
    rfl
  · intro turn member turn' member' fileName _ _ _ _
    have here : turn.files = helloShelf ∧ turn.clock = .still 0 := by
      change turn ∈ helloRequest.turns 0 _ at member
      rw [alone] at member
      rcases List.mem_pair.mp member with rfl | rfl <;> exact ⟨rfl, rfl⟩
    have there : turn'.files = helloShelf ∧ turn'.clock = slowCheck 1000 := by
      change turn' ∈ helloRequest.turns 0 _ at member'
      rw [alone] at member'
      rcases List.mem_pair.mp member' with rfl | rfl <;> exact ⟨rfl, rfl⟩
    constructor
    · rw [here.1, there.1]
    · rw [here.2, there.2]
      exact Clock.inStep_of_settled still slow
  · change (helloRequest.after _).eventsOf 0 ≠ (helloRequest.after _).eventsOf 0
    have nothing : Batch.parse reporting [] "say hi" (.still 0) = some (helloBatch 0) := by
      decide +kernel
    have micro : Batch.parse reporting [] "say hi" (slowCheck 1000) = some (helloBatch 1000) := by
      decide +kernel
    rw [hello_told nothing, hello_told micro]
    intro same
    have ends := List.append_cancel_left (List.append_cancel_left same)
    unfold closing at ends
    simp only [List.append_assoc] at ends
    have reports := List.append_cancel_right ends
    have report : (Timings.single .blacklist 0).report = (Timings.single .blacklist 1000).report := by
      simpa using reports
    exact Timings.report_single_ne .blacklist (by decide) (by decide) report

end Run

end ConsoleBatch
