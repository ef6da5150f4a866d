import ConsoleBatch.Proofs.Deadline
import ConsoleBatch.Proofs.Reports

/-! Linting a batch file foretells what running it does.

Both commands locate the same file and read the same contents. The run is one request in a session
of its own, so its events are the script of these contents, and the report is about the same batch
but for the times of the checks. -/

namespace ConsoleBatch

namespace Run

open Batch (lintTime)
open Files (Folder Tree)
open Lint (Clock)

@[simp] theorem dispatchedIn_told (catalog : Message.Catalog) (notices : List Notice) :
    dispatchedIn (told catalog notices) = [] :=
  dispatchedIn_messages _

inductive Contents.Alike : Contents → Contents → Prop
  | unreadable : Contents.Alike .unreadable .unreadable
  | cancelled : Contents.Alike .cancelled .cancelled
  | batch {parsed parsed' : Batch.Parsed}
      (batches : parsed.Alike (fun _ _ => True) parsed') :
      Contents.Alike (.batch parsed) (.batch parsed')

theorem contentsAt_alike (config : Config) (folder : Folder) (files : Tree) (fileName : String)
    (known : List String) {clock clock' : Clock} {expired : Prop}
    (settled : clock.Settled expired (lintTime config))
    (settled' : clock'.Settled expired (lintTime config)) :
    (contentsAt config folder files clock fileName known).Alike
      (contentsAt config folder files clock' fileName known) := by
  have together := Clock.inStep_of_settled settled settled'
  unfold contentsAt
  cases folder.read files fileName with
  | error error => exact .unreadable
  | ok content =>
    have same : ∀ name, name ∈ known ↔ name ∈ known := fun _ => Iff.rfl
    have parsed := Batch.parse_alike (fun _ _ => trivial) config same content together
    dsimp only
    generalize Batch.parse config known content clock = first,
      Batch.parse config known content clock' = second at parsed
    cases parsed with
    | none => exact .cancelled
    | some batches => exact .batch batches

end Run

namespace Cli

open Batch (Parsed lintTime)
open Files (Folder Tree)
open Json (Value)
open Lint (Clock)
open Run (Contents EndsWith Event Session contentsAt dispatchedIn dispatchedIn_append refusalNotice
  refusalOutcome script sequel told)

def runEvents (config : Config) (folder : Folder) (files : Tree) (clock : Clock) (file : String) :
    List Event :=
  let alone := Session.idle config folder files config.host.knownCommands
  ((alone.request "console" file).drain clock).2.log.map Run.Entry.event

variable {config : Config} {folder : Folder} {files : Tree} {clock : Clock} {file : String}

theorem runEvents_refused {error : LookupError}
    (looked : folder.locate files file = .error error) :
    runEvents config folder files clock file =
      told config.messages [refusalNotice error] ++ [.finished (refusalOutcome error)] := by
  let alone := Session.idle config folder files config.host.knownCommands
  obtain ⟨turns, last, course, _, logged, _⟩ :=
    Session.course_drained config folder files config.host.knownCommands clock "console"
      (.request file)
  have refused : alone.folder.locate alone.files file = .error error := looked
  rw [Run.course_refused refused course] at logged
  exact logged

theorem runEvents_located {fileName : String} (looked : folder.locate files file = .ok fileName) :
    runEvents config folder files clock file =
      script config fileName (contentsAt config folder files clock fileName
        (config.host.knownCommands.map Text.lowered)) := by
  let alone := Session.idle config folder files config.host.knownCommands
  obtain ⟨turns, last, course, found, logged, no_job⟩ :=
    Session.course_drained config folder files config.host.knownCommands clock "console"
      (.request file)
  have accepted : alone.folder.locate alone.files file = .ok fileName := looked
  have scripted := Run.course_located accepted course
  rw [no_job] at scripted
  obtain ⟨reading, member, whole⟩ := scripted.complete
  obtain ⟨same_files, same_clock⟩ := found reading member
  rw [same_files, same_clock] at whole
  exact Eq.trans logged whole

theorem code_runFile : (runFile config folder files clock file).code =
    if isCompleted (runEvents config folder files clock file) then 0 else 1 := rfl

theorem printed_runFile : printed (runFile config folder files clock file).acts =
    (dispatchedIn (runEvents config folder files clock file)).map shownCommand := by
  let requested :=
    (Session.idle config folder files config.host.knownCommands).request "console" file
  have logged : requested.log.flatMap (fun entry => showEvent entry.event) =
      (requested.log.map Run.Entry.event).flatMap showEvent := (List.flatMap_map _ _ _).symm
  change printed (requested.log.flatMap (fun entry => showEvent entry.event) ++
    (requested.drain clock).1.flatMap showTask) = _
  rw [runEvents, Session.events_drain, dispatchedIn_append, List.map_append, printed_append, logged,
    printed_showEvents, printed_showTasks]

/-- A run prints the commands that it dispatches, in order. -/
theorem stdout_runFile : (runFile config folder files clock file).stdout =
    linesText ((dispatchedIn (runEvents config folder files clock file)).map shownCommand) := by
  rw [stdout_eq, printed_runFile]

theorem isCompleted_of_endsWith {events : List Event} {outcome : Run.Outcome}
    (ends : EndsWith events outcome) : isCompleted events = outcome.isCompleted := by
  rw [Bool.eq_iff_iff, isCompleted, List.any_eq_true]
  constructor
  · rintro ⟨event, member, completed⟩
    cases event with
    | message | dispatch => cases completed
    | finished last => rwa [ends.finished_iff.mp member] at completed
  · intro completed
    exact ⟨.finished outcome, ends.finished_iff.mpr rfl, completed⟩

theorem lintFile_refused {error : LookupError} (looked : folder.locate files file = .error error)
    (format : Format) (timings : Bool) :
    lintFile config folder files clock file format timings = failure [error.message] := by
  unfold lintFile
  rw [looked]

theorem lintFile_located {fileName : String} (looked : folder.locate files file = .ok fileName)
    (format : Format) (timings : Bool) :
    lintFile config folder files clock file format timings =
      match contentsAt config folder files clock fileName
          (config.host.knownCommands.map Text.lowered) with
      | .unreadable => failure (config.messages.message .readError [])
      | .cancelled =>
        failure (config.messages.message .executionCancelled [("filename", fileName)])
      | .batch batch =>
        { acts := (report format fileName batch
            (timings || config.linter.execution.debugMode)).map .out
          code := if batch.warnings.isEmpty then 0 else 1 } := by
  unfold lintFile contentsAt
  rw [looked]
  dsimp only
  cases folder.read files fileName with
  | error error => rfl
  | ok content =>
    dsimp only
    cases Batch.parse config (config.host.knownCommands.map Text.lowered) content clock <;> rfl

structure NothingRuns (lint run : Transcript) (events : List Event) : Prop where
  no_report : lint.stdout = ""
  lint_fails : lint.code = 1
  none_shown : run.stdout = ""
  none_dispatched : dispatchedIn events = []
  run_fails : run.code = 1

/-- A report is printed, and it tells what is run. -/
structure Foretells (report : Value) (lint run : Transcript) (events : List Event) : Prop where
  report_shown : Json.read? lint.stdout = some report
  run_succeeds : run.code = 0
  commands_shown : run.stdout = linesText ((listedCommands report).map shownCommand)
  counted : ∃ skipped, report.member? "skipped" = some (.natural skipped) ∧
    ∀ outcome, .finished outcome ∈ events ↔
      outcome = .completed { executed := (listedCommands report).length, skipped }

theorem nothingRuns_of_failure {lines : List String} {events : List Event} {outcome : Run.Outcome}
    (same : runEvents config folder files clock file = events) (silent : dispatchedIn events = [])
    (ends : EndsWith events outcome) (failed : outcome.isCompleted = false) :
    NothingRuns (failure lines) (runFile config folder files clock file)
      (runEvents config folder files clock file) := by
  constructor
  · rw [stdout_eq, printed_failure]
    rfl
  · rfl
  · rw [stdout_runFile, same, silent]
    rfl
  · rw [same, silent]
  · rw [code_runFile, same, isCompleted_of_endsWith ends, failed]
    rfl

theorem dispatchedIn_batch (config : Config) (fileName : String) (batch : Parsed) :
    dispatchedIn (script config fileName (.batch batch)) = Run.commandsIn batch.actions := by
  simp [script, sequel, dispatchedIn_append]

theorem foretells_of_batch {fileName : String} {batch : Parsed} {timings' : Lint.Timings}
    (fits : batch.skipped < Json.wordLimit)
    (events : runEvents config folder files clock file =
      script config fileName (.batch { batch with timings := timings' }))
    (timings : Bool) (code : Nat) :
    Foretells (reportValue fileName batch timings).reread
      { acts := (report .json fileName batch timings).map .out, code }
      (runFile config folder files clock file) (runEvents config folder files clock file) := by
  have ends := Run.endsWith_script config fileName (.batch { batch with timings := timings' })
  constructor
  · have shown : linesText (printed ((report .json fileName batch timings).map .out)) =
        (reportValue fileName batch timings).pretty ++ "\n" := by
      simp [report, printed, Act.line?, linesText]
    rw [stdout_eq, shown, read?_printed]
  · rw [code_runFile, events, isCompleted_of_endsWith ends]
    rfl
  · rw [stdout_runFile, events, dispatchedIn_batch, listedCommands_reread]
  · refine ⟨batch.skipped, member?_skipped _ fits _, fun outcome => ?_⟩
    rw [events, ends.finished_iff, listedCommands_reread]
    rfl

theorem file_foretold {runClock lintClock : Clock} {expired : Prop}
    (run_settled : runClock.Settled expired (lintTime config))
    (lint_settled : lintClock.Settled expired (lintTime config)) (timings : Bool) :
    let run := runFile config folder files runClock file
    let lint := lintFile config folder files lintClock file .json timings
    let events := runEvents config folder files runClock file
    NothingRuns lint run events ∨ ∃ report, Foretells report lint run events := by
  intro run lint events
  cases looked : folder.locate files file with
  | error error =>
    have refused : runEvents config folder files runClock file = _ := runEvents_refused looked
    have failed : lint = failure [error.message] := lintFile_refused looked .json timings
    rw [failed]
    refine .inl (nothingRuns_of_failure refused ?_ ⟨_, rfl, Run.unfinished_told _ _⟩ ?_)
    · simp [dispatchedIn_append]
    · cases error <;> rfl
  | ok fileName =>
    have located : runEvents config folder files runClock file = _ := runEvents_located looked
    have linted : lint = _ := lintFile_located looked .json timings
    have alike := Run.contentsAt_alike config folder files fileName
      (config.host.knownCommands.map Text.lowered) lint_settled run_settled
    generalize foundAt : contentsAt config folder files lintClock fileName _ = found,
      contentsAt config folder files runClock fileName _ = found' at located linted alike
    rw [linted]
    cases alike with
    | unreadable | cancelled =>
      refine .inl (nothingRuns_of_failure located ?_ (Run.endsWith_script _ _ _) rfl)
      simp [script, sequel, dispatchedIn_append]
    | batch batches =>
      -- The run has measured times of its own, which no command depends on.
      obtain ⟨timings', _⟩ := batches
      exact .inr ⟨_, foretells_of_batch (skipped_fits foundAt) located _ _⟩

theorem parse_run {file : String} (plain : isOption file = false) :
    parseArguments ["run", file] =
      some { command := .run file, config := none, dir := none, verbose := false } := by
  have no_option : isOption "run" = false := rfl
  have no_end : file ≠ "--" := by
    rintro rfl
    cases plain
  simp [parseArguments, readFront?, readBack?, no_option, no_end, plain, optionsOf?, commandOf?,
    isFair]

theorem parse_lint {file : String} (plain : isOption file = false) :
    parseArguments ["lint", file, "--format", "json"] =
      some { command := .lint file .json false, config := none, dir := none, verbose := false } := by
  have no_option : isOption "lint" = false := rfl
  have option : isOption "--format" = true := rfl
  have no_end : file ≠ "--" := by
    rintro rfl
    cases plain
  have allowed : optionsOf? "lint" = some (Opt.common ++ [.format, .timings]) := rfl
  have json : readOption? (Opt.common ++ [.format, .timings]) "--format" (some "json") =
      some { given := [(.format, "json")], usesNext := true } := rfl
  have back : readBack? (Opt.common ++ [.format, .timings]) [file, "--format", "json"] =
      some ([(.format, "json")], [file]) := by
    simp [readBack?, option, no_end, plain, json, Reading.left]
  simp only [parseArguments, readFront?, no_option, allowed, back, Option.bind_eq_bind,
    Option.bind_some, Bool.not_false, if_true]
  rfl

/-- Whatever is given besides, running a file and linting it to a JSON report go together, if the
lint time is over at all looks at both clocks or at none. Without a usable configuration, both fail.
Without a report, nothing is run. With a report, just the commands in it are run. -/
theorem lint_foretells_run {runArguments lintArguments : List String} {shared : Invocation}
    {file : String} {timings : Bool}
    (running : parseArguments runArguments = some { shared with command := .run file })
    (linting : parseArguments lintArguments =
      some { shared with command := .lint file .json timings })
    (files : Tree) {runClock lintClock : Clock} {expired : Prop}
    (settled : ∀ config, loadConfig shared files = .ok config →
      runClock.Settled expired (lintTime config) ∧ lintClock.Settled expired (lintTime config)) :
    let run := execute runArguments files runClock
    let lint := execute lintArguments files lintClock
    match loadConfig shared files with
    | .error _ => run.code = 2 ∧ lint.code = 2
    | .ok config =>
      let events :=
        runEvents config (Folder.ofConfig shared.baseDir config) files runClock file
      NothingRuns lint run events ∨ ∃ report, Foretells report lint run events := by
  intro run lint
  have same_config : ∀ command, loadConfig { shared with command } files = loadConfig shared files :=
    fun _ => rfl
  cases loaded : loadConfig shared files with
  | error error =>
    constructor
    · change (execute runArguments files runClock).code = 2
      simp only [execute, running, same_config, loaded, unusable]
    · change (execute lintArguments files lintClock).code = 2
      simp only [execute, linting, same_config, loaded, unusable]
  | ok config =>
    obtain ⟨run_settled, lint_settled⟩ := settled config loaded
    have here : run = runFile config (Folder.ofConfig shared.baseDir config) files runClock file := by
      change execute runArguments files runClock = _
      simp only [execute, running, same_config, loaded]
      rfl
    have there : lint = lintFile config (Folder.ofConfig shared.baseDir config) files lintClock file
        .json timings := by
      change execute lintArguments files lintClock = _
      simp only [execute, linting, same_config, loaded]
      rfl
    rw [here, there]
    exact file_foretold run_settled lint_settled timings

def quietDir : Tree where
  entries :=
    [(["batches"], .folder),
      (["batches", "greet.batch"], .file "say hi\n!sleep 2\nstop\nsay bye\n".toUTF8)]

theorem lint_foretells_run_greet :
    let run := execute ["run", "greet"] quietDir (.still 0)
    let lint := execute ["lint", "greet", "--format", "json"] quietDir (.still 5)
    let events := runEvents {} (Folder.ofConfig "." {}) quietDir (.still 0) "greet"
    dispatchedIn events = ["say hi", "say bye"] ∧ ∃ report, Foretells report lint run events := by
  intro run lint events
  let shared : Invocation :=
    { command := .run "greet", config := none, dir := none, verbose := false }
  have loaded : loadConfig shared quietDir = .ok {} := by
    have no_file : configPath? shared quietDir = none := by decide +kernel
    rw [loadConfig, no_file]
  have located : (Folder.ofConfig "." {}).locate quietDir "greet" = .ok "greet.batch" :=
    ok_of_toOption (by decide +kernel)
  have dispatched : dispatchedIn events = ["say hi", "say bye"] := by
    change dispatchedIn (runEvents ..) = _
    rw [runEvents_located located]
    decide +kernel
  have settled : ∀ config, loadConfig shared quietDir = .ok config →
      (Clock.still 0).Settled False (lintTime config) ∧
        (Clock.still 5).Settled False (lintTime config) := by
    intro config found
    cases loaded.symm.trans found
    constructor
    · intro later
      change 0 + lintTime {} ≤ 0 ↔ False
      decide
    · intro later
      change 5 + lintTime {} ≤ 5 ↔ False
      decide
  have running : parseArguments ["run", "greet"] = some { shared with command := .run "greet" } :=
    parse_run rfl
  have linting : parseArguments ["lint", "greet", "--format", "json"] =
      some { shared with command := .lint "greet" .json false } :=
    parse_lint rfl
  have foretold := lint_foretells_run running linting quietDir settled
  rw [loaded] at foretold
  refine ⟨dispatched, ?_⟩
  rcases foretold with nothing | foretold
  · cases nothing.none_dispatched.symm.trans dispatched
  · exact foretold

end Cli

end ConsoleBatch
