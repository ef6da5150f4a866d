import ConsoleBatch.Proofs.Accounting

/-! What a requester is told, from the request to its end.

The script of a request is all that is told and dispatched for it, in order. It is fixed as soon as
the file has been read; whatever happens around the request, its events are the front of its script,
and the whole of it once the request is finished. -/

namespace ConsoleBatch.Run

open Batch (Parsed Warning)
open Files (Folder Tree)
open Message (Bindings Catalog Key)

structure Notice where
  key : Key
  bindings : Bindings := []

def said (catalog : Catalog) : List Notice → List String
  | [] => []
  | notice :: rest =>
    if catalog.template notice.key.name = "" then said catalog rest
    else
      Message.substitute (catalog.opening ++ catalog.template notice.key.name) notice.bindings ::
        said catalog rest

def told (catalog : Catalog) (notices : List Notice) : List Event :=
  (said catalog notices).map .message

def aboutFile (key : Key) (fileName : String) : Notice where
  key := key
  bindings := [("filename", fileName)]

def aboutCount (key : Key) (count : Nat) (fileName : String) : Notice where
  key := key
  bindings := [("count", toString count), ("filename", fileName)]

def aboutWarning (fileName : String) : Warning → Notice
  | .lint number line message =>
    { key := .lintWarning
      bindings := [("line_number", toString number), ("line", line), ("message", message)] }
  | .invalidSleep _ line _ => { key := .invalidSleep, bindings := [("line", line)] }
  | .emptyFile => aboutFile .emptyFile fileName

def refusalNotice : LookupError → Notice
  | .invalidName name => if name = "" then { key := .usage } else aboutFile .invalidFileName name
  | .notFound name => aboutFile .fileNotFound name

def refusalOutcome : LookupError → Outcome
  | .invalidName _ => .rejected
  | .notFound _ => .notFound

/-- The warnings that wait for the end of the batch. -/
def lateWarnings (batch : Parsed) : List Warning :=
  batch.warnings.filter fun warning => ! warning.isInvalidSleep

def noticesBefore (fileName : String) (batch : Parsed) : List Notice :=
  batch.invalidSleeps.map (aboutWarning fileName) ++
    if batch.lintTimedOut then [aboutFile .lintTimeout fileName] else []

def noticesAfter (config : Config) (fileName : String) (batch : Parsed) : List Notice :=
  (lateWarnings batch).map (aboutWarning fileName) ++
    (if config.linter.execution.debugMode then
      [{ key := .timingReport, bindings := [("report", batch.timings.report)] }]
    else []) ++
    (if 0 < batch.skipped then [aboutCount .skippedDangerous batch.skipped fileName] else []) ++
    [aboutCount .success (commandsIn batch.actions).length fileName]

/-- What a request finds in its file. -/
inductive Contents where
  | unreadable
  | cancelled
  | batch (parsed : Parsed)

def contentsAt (config : Config) (folder : Folder) (files : Tree) (clock : Lint.Clock)
    (fileName : String) (known : List String) : Contents :=
  match folder.read files fileName with
  | .error _ => .unreadable
  | .ok content =>
    match Batch.parse config known content clock with
    | none => .cancelled
    | some parsed => .batch parsed

def sequel (config : Config) (fileName : String) : Contents → List Event
  | .unreadable => told config.messages [{ key := .readError }] ++ [.finished .readFailed]
  | .cancelled =>
    told config.messages [aboutFile .executionCancelled fileName] ++ [.finished .cancelled]
  | .batch parsed =>
    told config.messages (noticesBefore fileName parsed) ++
      (commandsIn parsed.actions).map (.dispatch .console) ++
      told config.messages (noticesAfter config fileName parsed) ++
      [.finished (.completed
        { executed := (commandsIn parsed.actions).length, skipped := parsed.skipped })]

def script (config : Config) (fileName : String) (contents : Contents) : List Event :=
  told config.messages [aboutFile .executionStarted fileName] ++ sequel config fileName contents

theorem said_append (catalog : Catalog) (first second : List Notice) :
    said catalog (first ++ second) = said catalog first ++ said catalog second := by
  induction first with
  | nil => rfl
  | cons notice rest ih =>
    simp only [List.cons_append, said, ih]
    split <;> rfl

theorem told_append (catalog : Catalog) (first second : List Notice) :
    told catalog (first ++ second) = told catalog first ++ told catalog second := by
  simp only [told, said_append, List.map_append]

theorem said_filter {Item : Type} (catalog : Catalog) (chosen : Item → Bool)
    (notice : Item → Notice) (items : List Item) :
    said catalog ((items.filter chosen).map notice) =
      items.flatMap fun item => if chosen item then said catalog [notice item] else [] := by
  induction items with
  | nil => rfl
  | cons item rest ih =>
    rw [List.flatMap_cons, ← ih]
    cases here : chosen item with
    | false => simp [here]
    | true =>
      simp only [List.filter_cons, here, if_true, List.map_cons]
      exact said_append catalog [notice item] _

theorem message_eq_said (catalog : Catalog) (key : Key) (bindings : Bindings) :
    catalog.message key bindings = said catalog [{ key, bindings }] := by
  unfold Catalog.message Catalog.render
  dsimp only [said]
  split <;> rfl

theorem tell_eq_told (config : Config) (key : Key) (bindings : Bindings) :
    tell config key bindings = told config.messages [{ key, bindings }] :=
  congrArg (List.map Event.message) (message_eq_said config.messages key bindings)

theorem openingMessages_eq (config : Config) (fileName : String) (batch : Parsed) :
    Batch.openingMessages config fileName batch =
      said config.messages (noticesBefore fileName batch) := by
  have each : Batch.openingNotice config.messages = fun warning =>
      if warning.isInvalidSleep then said config.messages [aboutWarning fileName warning]
      else [] := by
    funext warning
    cases warning with
    | invalidSleep number line reason => exact message_eq_said _ _ _
    | lint | emptyFile => rfl
  unfold Batch.openingMessages noticesBefore Parsed.invalidSleeps
  rw [said_append, said_filter, each]
  congr 1
  split
  · exact message_eq_said _ _ _
  · rfl

theorem deferredMessages_eq (config : Config) (fileName : String) (batch : Parsed) :
    Batch.deferredMessages config fileName batch =
      said config.messages ((lateWarnings batch).map (aboutWarning fileName) ++
        if config.linter.execution.debugMode then
          [{ key := .timingReport, bindings := [("report", batch.timings.report)] }]
        else []) := by
  have each : Batch.closingNotice config.messages fileName = fun warning =>
      if ! warning.isInvalidSleep then said config.messages [aboutWarning fileName warning]
      else [] := by
    funext warning
    cases warning with
    | invalidSleep number line reason => rfl
    | lint | emptyFile => exact message_eq_said _ _ _
  unfold Batch.deferredMessages lateWarnings
  rw [said_append, said_filter, each]
  congr 1
  split
  · exact message_eq_said _ _ _
  · rfl

/-- What is told when a batch from a file is done. -/
theorem closing_eq (config : Config) (fileName : String) (batch : Parsed) :
    closing config fileName (Batch.deferredMessages config fileName batch)
        { executed := (commandsIn batch.actions).length, skipped := batch.skipped } =
      told config.messages (noticesAfter config fileName batch) ++
        [.finished (.completed
          { executed := (commandsIn batch.actions).length, skipped := batch.skipped })] := by
  have skipping : ∀ count : Nat,
      (if 0 < count then tell config .skippedDangerous
          [("count", toString count), ("filename", fileName)] else []) =
        told config.messages
          (if 0 < count then [aboutCount .skippedDangerous count fileName] else []) := by
    intro count
    split
    · exact tell_eq_told _ _ _
    · rfl
  unfold closing noticesAfter
  rw [skipping, tell_eq_told, deferredMessages_eq, told_append, told_append]
  rfl

variable {config : Config} {folder : Folder}

def InFlight.outstanding (config : Config) (batch : InFlight) : List Event :=
  (commandsIn batch.execution.remaining).map (.dispatch .console) ++
    closing config batch.fileName batch.deferred
      { executed := batch.execution.executed + (commandsIn batch.execution.remaining).length
        skipped := batch.execution.skipped }

theorem outstanding_ends {batch : InFlight} {commands : List String}
    (left : batch.execution.remaining = commands.map .command) :
    (drive config batch).events = batch.outstanding config := by
  rw [drive_ends config left, InFlight.outstanding, left, commandsIn_block]

theorem outstanding_pauses {batch : InFlight} {commands : List String} {seconds : Decimal.Double}
    {back : List Action} {execution : Execution}
    (left : batch.execution.remaining = commands.map .command ++ .pause seconds :: back)
    (later : execution.remaining = back)
    (executed : execution.executed = batch.execution.executed + commands.length)
    (skipped : execution.skipped = batch.execution.skipped) :
    batch.outstanding config = commands.map (.dispatch .console) ++
      InFlight.outstanding config { batch with execution } := by
  have all : commandsIn batch.execution.remaining = commands ++ commandsIn back := by
    rw [left, commandsIn_append, commandsIn_block, commandsIn_pause]
  simp only [InFlight.outstanding, all, later, executed, skipped, List.map_append,
    List.length_append, List.append_assoc, Nat.add_assoc]

theorem prefix_outstanding {batch : InFlight} {last : Effect} {since : List Turn}
    (course : Course config folder (drive config batch) since last) :
    last.events <+: batch.outstanding config := by
  rcases block_split batch.execution.remaining with
    ⟨commands, left⟩ | ⟨commands, seconds, back, left⟩
  · have whole : (drive config batch).events = batch.outstanding config := outstanding_ends left
    rw [drive_ends config left] at course whole
    obtain ⟨rfl, rfl⟩ := course.ended rfl
    exact whole ▸ List.prefix_rfl
  · obtain ⟨execution, driven, later, executed, skipped⟩ := drive_pauses config left
    rw [outstanding_pauses left later executed skipped]
    rw [driven] at course
    rcases course_resumption rfl course with waiting | ⟨chain, more, own, rfl, _, onward, rfl⟩
    · rw [waiting]
      exact List.prefix_append _ _
    · -- The batch goes on behind the pause, with fewer steps before it.
      have shorter : execution.remaining.length < batch.execution.remaining.length := by
        rw [later, left, List.length_append, List.length_cons]
        omega
      exact (List.prefix_append_right_inj _).mpr (prefix_outstanding onward)
termination_by batch.execution.remaining.length

theorem outstanding_ofParsed (config : Config) (fileName : String) (parsed : Parsed) :
    (InFlight.ofParsed config fileName parsed).outstanding config =
      (commandsIn parsed.actions).map (.dispatch .console) ++
        (told config.messages (noticesAfter config fileName parsed) ++
          [.finished (.completed
            { executed := (commandsIn parsed.actions).length, skipped := parsed.skipped })]) := by
  rw [InFlight.outstanding, remaining_ofParsed, ← closing_eq]
  simp only [InFlight.ofParsed, freshExecution, Nat.zero_add]

def Contents.job (fileName : String) : Contents → Job
  | .unreadable => .reportUnreadable
  | .cancelled => .begin fileName none
  | .batch parsed => .begin fileName (some parsed)

theorem afterReading_eq (config : Config) (folder : Folder) (files : Tree) (clock : Lint.Clock)
    (fileName : String) (known : List String) :
    afterReading config fileName known clock (folder.read files fileName) =
      (contentsAt config folder files clock fileName known).job fileName := by
  unfold afterReading contentsAt
  cases folder.read files fileName with
  | error error => rfl
  | ok content =>
    dsimp only
    cases Batch.parse config known content clock <;> rfl

theorem prefix_sequel {fileName : String} {contents : Contents} {second : Turn}
    {since : List Turn} {last : Effect} (next : second.job = contents.job fileName)
    (course : Course config folder (second.effect config folder) since last) :
    last.events <+: sequel config fileName contents := by
  obtain ⟨job, files, clock⟩ := second
  obtain rfl := next
  cases contents with
  | unreadable | cancelled =>
    obtain ⟨rfl, rfl⟩ := course.ended rfl
    dsimp only [Turn.effect, Contents.job, runJob, beginBatch, sequel, aboutFile]
    simp only [tell_eq_told, List.prefix_rfl]
  | batch parsed =>
    have begun : Turn.effect config folder ⟨.begin fileName (some parsed), files, clock⟩ =
        Effect.followedBy
          { events := (Batch.openingMessages config fileName parsed).map .message }
          (drive config (.ofParsed config fileName parsed)) := rfl
    dsimp only [Contents.job] at course
    rw [begun] at course
    obtain ⟨own, driven, rfl⟩ := course.behind
    have onward := prefix_outstanding driven
    rw [outstanding_ofParsed] at onward
    dsimp only [sequel, Effect.followedBy]
    rw [openingMessages_eq, List.append_assoc, List.append_assoc]
    exact (List.prefix_append_right_inj _).mpr onward

def EndsWith (events : List Event) (outcome : Outcome) : Prop :=
  ∃ front, events = front ++ [.finished outcome] ∧ ∀ event ∈ front, event.isFinish = false

theorem EndsWith.finished_iff {events : List Event} {outcome last : Outcome}
    (ends : EndsWith events last) : .finished outcome ∈ events ↔ outcome = last := by
  obtain ⟨front, rfl, unfinished⟩ := ends
  constructor
  · intro member
    simpa using finished_behind unfinished member
  · rintro rfl
    exact List.mem_append_right _ List.mem_cons_self

theorem EndsWith.whole {events whole : List Event} {outcome last : Outcome}
    (ends : EndsWith whole last) (starts : events <+: whole)
    (finished : .finished outcome ∈ events) : events = whole := by
  obtain ⟨front, rfl, unfinished⟩ := ends
  obtain ⟨back, split⟩ := starts
  obtain rfl := nothing_behind_end unfinished split.symm finished rfl
  rwa [List.append_nil] at split

theorem unfinished_told (catalog : Catalog) (notices : List Notice) :
    ∀ event ∈ told catalog notices, event.isFinish = false :=
  unfinished_messages _

def Contents.outcome : Contents → Outcome
  | .unreadable => .readFailed
  | .cancelled => .cancelled
  | .batch parsed => .completed
      { executed := (commandsIn parsed.actions).length, skipped := parsed.skipped }

theorem endsWith_script (config : Config) (fileName : String) (contents : Contents) :
    EndsWith (script config fileName contents) contents.outcome := by
  unfold script sequel
  cases contents with
  | unreadable | cancelled =>
    dsimp only
    rw [← List.append_assoc]
    exact ⟨_, rfl, unfinished_append (unfinished_told _ _) (unfinished_told _ _)⟩
  | batch parsed =>
    dsimp only
    rw [← List.append_assoc]
    exact ⟨_, rfl, unfinished_append (unfinished_told _ _) (unfinished_append
      (unfinished_append (unfinished_told _ _) (unfinished_dispatches _)) (unfinished_told _ _))⟩

theorem refusal_eq (config : Config) (error : LookupError) :
    refusal config error =
      { events := told config.messages [refusalNotice error] ++
          [.finished (refusalOutcome error)] } := by
  cases error with
  | notFound name =>
    dsimp only [refusal, refusalNotice, refusalOutcome]
    rw [tell_eq_told]
    rfl
  | invalidName name =>
    dsimp only [refusal, refusalNotice, refusalOutcome]
    split <;> simp only [tell_eq_told, aboutFile]

/-- The events of a request that has started, and its waiting jobs, as far as it has come. -/
structure Scripted (config : Config) (folder : Folder) (fileName : String) (known : List String)
    (turns : List Turn) (events : List Event) (jobs : List Job) : Prop where
  starting : turns.length < 2 →
    events = told config.messages [aboutFile .executionStarted fileName] ∧ jobs ≠ []
  following : ∀ reading second since, turns = reading :: second :: since →
    events <+: script config fileName
      (contentsAt config folder reading.files reading.clock fileName known)
  settled : ∀ reading second since, turns = reading :: second :: since → jobs = [] →
    events = script config fileName
      (contentsAt config folder reading.files reading.clock fileName known)

theorem scripted_course {fileName : String} {known : List String} {last : Effect}
    {turns : List Turn}
    (course : Course config folder
      { events := told config.messages [aboutFile .executionStarted fileName]
        next := some (.read fileName known) } turns last) :
    Scripted config folder fileName known turns last.events last.next.toList := by
  have balanced : last.Balanced :=
    Effect.balanced_course course (.owned _ _ (unfinished_told _ _))
  rcases course_reading rfl course with
    ⟨early, silent⟩ | ⟨reading, second, since, own, rfl, _, next, onward, rfl⟩
  · have no_second : ∀ reading second since, turns ≠ reading :: second :: since := by
      rintro reading second since rfl
      simp only [List.length_cons] at early
      omega
    refine ⟨fun _ => ⟨silent, ?_⟩, fun _ _ _ split => absurd split (no_second _ _ _),
      fun _ _ _ split => absurd split (no_second _ _ _)⟩
    intro no_job
    obtain ⟨outcome, finished⟩ := Effect.balanced_ownerless balanced no_job
    rw [silent] at finished
    cases unfinished_told _ _ _ finished
  · rw [afterReading_eq] at next
    have starts := (List.prefix_append_right_inj
      (told config.messages [aboutFile .executionStarted fileName])).mpr
        (prefix_sequel next onward)
    constructor
    · intro early
      simp only [List.length_cons] at early
      omega
    · intro reading second since split
      obtain ⟨rfl, rfl, rfl⟩ : _ = reading ∧ _ = second ∧ _ = since := by simpa using split
      exact starts
    · intro reading second since split no_job
      obtain ⟨rfl, rfl, rfl⟩ : _ = reading ∧ _ = second ∧ _ = since := by simpa using split
      obtain ⟨outcome, finished⟩ := Effect.balanced_ownerless balanced no_job
      exact (endsWith_script _ _ _).whole starts finished

/-- Without its file, a request does not come to rest. -/
theorem Scripted.complete {fileName : String} {known : List String} {turns : List Turn}
    {events : List Event} (scripted : Scripted config folder fileName known turns events []) :
    ∃ reading ∈ turns, events = script config fileName
      (contentsAt config folder reading.files reading.clock fileName known) := by
  match split : turns with
  | [] | [_] => exact absurd rfl (scripted.starting (by simp)).2
  | reading :: second :: since =>
    exact ⟨reading, List.mem_cons_self, scripted.settled reading second since rfl rfl⟩

variable {session : Session} {name : String} {turns : List Turn} {last : Effect}

theorem course_refused {error : LookupError}
    (looked : session.folder.locate session.files name = .error error)
    (course : Course session.config session.folder ((Opening.request name).effect session) turns
      last) :
    last = { events := told session.config.messages [refusalNotice error] ++
      [.finished (refusalOutcome error)] } := by
  rw [request_refused looked, refusal_eq] at course
  exact (course.ended rfl).2

theorem course_located {fileName : String}
    (looked : session.folder.locate session.files name = .ok fileName)
    (course : Course session.config session.folder ((Opening.request name).effect session) turns
      last) :
    Scripted session.config session.folder fileName (session.registry.map Text.lowered) turns
      last.events last.next.toList := by
  rw [request_accepted looked, tell_eq_told] at course
  exact scripted_course course

/-- A warning is told before the batch or after it, and those told before are in the order of their
lines. -/
theorem warnings_parted {files : Tree} {clock : Lint.Clock} {fileName : String}
    {known : List String} {parsed : Parsed}
    (found : contentsAt config folder files clock fileName known = .batch parsed) :
    (parsed.invalidSleeps ++ lateWarnings parsed).Perm parsed.warnings ∧
      parsed.invalidSleeps.Pairwise Warning.Before := by
  refine ⟨List.filter_append_perm _ _, ?_⟩
  unfold contentsAt at found
  split at found
  · cases found
  · split at found
    · cases found
    · rename_i read
      cases found
      exact (Batch.tally_parse read).rejected_in_order.2

namespace Session

/-- In every session, all that is logged of a request goes to its requester. A refused request has
been told why and is finished. Any other has been told that it has started; from the second of its
jobs on, its events are the front of the script that its file asks for, and once none of its jobs
waits, the whole script, in which each warning of the batch has one place. -/
theorem message_transcript (config : Config) (folder : Folder) (files : Tree)
    (registry : List String) (before later : List Move) (requester name : String) :
    let opened := (idle config folder files registry).after before
    let requested := opened.request requester name
    let turns := requested.turns opened.nextNumber later
    let events := (requested.after later).eventsOf opened.nextNumber
    let jobs := (requested.after later).jobsOf opened.nextNumber
    let known := opened.registry.map Text.lowered
    (∀ entry ∈ (requested.after later).log,
      entry.ticket.number = opened.nextNumber → entry.ticket.requester = requester) ∧
    match folder.locate opened.files name with
    | .error error =>
      events = told config.messages [refusalNotice error] ++ [.finished (refusalOutcome error)] ∧
        jobs = []
    | .ok fileName =>
      Scripted config folder fileName known turns events jobs ∧
      ∀ reading ∈ turns, ∀ parsed,
        contentsAt config folder reading.files reading.clock fileName known = .batch parsed →
          (parsed.invalidSleeps ++ lateWarnings parsed).Perm parsed.warnings ∧
            parsed.invalidSleeps.Pairwise Warning.Before := by
  intro opened requested turns events jobs known
  have numbered : opened.Numbered :=
    numbered_after (numbered_idle config folder files registry) before
  have made : opened.nextNumber < requested.nextNumber := Nat.lt_succ_self _
  have addressed : (requested.after later).Addressed opened.nextNumber requester :=
    addressed_after (addressed_enroll numbered requester (.request name)) made later
  obtain ⟨last, course, shown⟩ := shows_enrolled numbered requester (.request name) later
  have here : events = last.events := shown.events
  have left : jobs = last.next.toList := shown.jobs
  have same_config : opened.config = config := config_after _ _
  have same_folder : opened.folder = folder := folder_after _ _
  refine ⟨addressed.logged, ?_⟩
  cases looked : folder.locate opened.files name with
  | error error =>
    have ended := course_refused (by rw [same_folder]; exact looked) course
    rw [here, left, ended, same_config]
    exact ⟨rfl, rfl⟩
  | ok fileName =>
    have scripted := course_located (by rw [same_folder]; exact looked) course
    rw [same_config, same_folder] at scripted
    rw [here, left]
    exact ⟨scripted, fun _ _ _ => warnings_parted⟩

theorem message_transcript_greet :
    let requested := (idle {} ⟨".", ".batch"⟩ shelf ["say"]).request "first" "greet"
    let later : List Move := [.run 0 (.still 0), .run 0 (.still 0), .run 0 (.still 0)]
    let events := (requested.after later).eventsOf 0
    (requested.after later).jobsOf 0 = [] ∧
      events =
        [.message "Executing batch file: greet.batch", .dispatch .console "say hi",
          .dispatch .console "say bye",
          .message "Line 3: Command 'stop' is blacklisted.",
          .message "Skipped 1 dangerous command(s) in greet.batch.",
          .message "Executed 2 command(s) from greet.batch.",
          .finished (.completed { executed := 2, skipped := 1 })] ∧
      ∃ reading second since, requested.turns 0 later = reading :: second :: since ∧
        events = script {} "greet.batch" (contentsAt {} ⟨".", ".batch"⟩ reading.files reading.clock
          "greet.batch" (["say"].map Text.lowered)) := by
  intro requested later events
  have at_rest : (requested.after later).jobsOf 0 = [] := by decide +kernel
  refine ⟨at_rest, by decide +kernel, ?_⟩
  have size : (requested.turns 0 later).length = 3 := by decide +kernel
  obtain ⟨_, transcript⟩ :=
    message_transcript {} ⟨".", ".batch"⟩ shelf ["say"] [] later "first" "greet"
  simp only [after_nil, idle, locate_greet] at transcript
  match split : requested.turns 0 later with
  | [] | [_] => simp [split] at size
  | reading :: second :: since =>
    exact ⟨reading, second, since, rfl,
      transcript.1.settled reading second since split at_rest⟩

end Session

end ConsoleBatch.Run
