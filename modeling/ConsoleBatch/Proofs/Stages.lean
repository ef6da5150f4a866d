import ConsoleBatch.Proofs.Blocks
import ConsoleBatch.Proofs.Course

/-! The stages of a course: reading a file, starting the batch, and waiting at its pauses. -/

namespace ConsoleBatch.Run

open Batch (Parsed)
open Decimal (Double)
open Files (Folder Tree)

variable {config : Config} {folder : Folder}

def Turn.place (turn : Turn) : Place :=
  turn.job.place

/-- Where the jobs run that a pause takes. -/
def pauseChain (mode : TimerMode) (seconds : Double) : List Place :=
  match mode with
  | .ticks => [.later (pauseTicks seconds)]
  | .realtime => [.worker, .primary]

def InFlight.ofParsed (config : Config) (fileName : String) (parsed : Parsed) : InFlight where
  fileName := fileName
  execution := freshExecution parsed
  deferred := Batch.deferredMessages config fileName parsed

theorem remaining_ofParsed (config : Config) (fileName : String) (parsed : Parsed) :
    (InFlight.ofParsed config fileName parsed).execution.remaining = parsed.actions :=
  Execution.remaining_unstarted rfl (by intro same; cases same)

def pauseJobs (mode : TimerMode) (seconds : Double) (batch : InFlight) : List Job :=
  match mode with
  | .ticks => [.resumeLater (pauseTicks seconds) batch]
  | .realtime => [.wait (pauseMillis seconds) batch, .resume batch]

theorem places_pauseJobs (mode : TimerMode) (seconds : Double) (batch : InFlight) :
    (pauseJobs mode seconds batch).map Job.place = pauseChain mode seconds := by
  cases mode <;> rfl

/-- A course through a pause is at one of the jobs of the pause, with no event since, or has run
them all and goes on with the batch. -/
theorem course_pause {mode : TimerMode} {seconds : Double} {batch : InFlight}
    {effect last : Effect} {turns : List Turn}
    (due : effect.next = some (resumption mode seconds batch))
    (course : Course config folder effect turns last) :
    (∃ job waiting, pauseJobs mode seconds batch = turns.map Turn.job ++ job :: waiting ∧
      last = { events := effect.events, next := some job }) ∨
      ∃ chain more own, turns = chain ++ more ∧
        chain.map Turn.job = pauseJobs mode seconds batch ∧
        Course config folder (drive config batch) more own ∧ last = effect.followedBy own := by
  obtain ⟨events, next⟩ := effect
  cases mode with
  | ticks =>
    cases course with
    | rest =>
      cases due
      exact .inl ⟨_, [], rfl, rfl⟩
    | @turn _ _ delayed more now onward =>
      obtain ⟨job, files, clock⟩ := delayed
      obtain rfl := Option.some.inj (due.symm.trans now)
      obtain ⟨own, course, rfl⟩ := onward.behind
      exact .inr ⟨[⟨_, files, clock⟩], more, own, rfl, rfl, course, rfl⟩
  | realtime =>
    cases course with
    | rest =>
      cases due
      exact .inl ⟨_, [.resume batch], rfl, rfl⟩
    | @turn _ _ sleeping more now onward =>
      obtain ⟨job, files, clock⟩ := sleeping
      obtain rfl := Option.some.inj (due.symm.trans now)
      cases onward with
      | rest =>
        refine .inl ⟨.resume batch, [], rfl, ?_⟩
        simp only [Effect.followedBy, Turn.effect, resumption, runJob, List.append_nil]
      | @turn _ _ resumed more now onward =>
        obtain ⟨job, later, clock'⟩ := resumed
        cases now
        obtain ⟨own, course, rfl⟩ := onward.behind
        refine .inr ⟨[⟨_, files, clock⟩, ⟨_, later, clock'⟩], more, own, rfl, rfl, course, ?_⟩
        simp only [Effect.followedBy, Turn.effect, resumption, runJob, List.append_nil]

theorem course_resumption {mode : TimerMode} {seconds : Double} {batch : InFlight}
    {effect last : Effect} {turns : List Turn}
    (due : effect.next = some (resumption mode seconds batch))
    (course : Course config folder effect turns last) :
    last.events = effect.events ∨
      ∃ chain more own, turns = chain ++ more ∧
        chain.map Turn.place = pauseChain mode seconds ∧
        Course config folder (drive config batch) more own ∧ last = effect.followedBy own := by
  rcases course_pause due course with
    ⟨job, waiting, _, rfl⟩ | ⟨chain, more, own, whole, jobs, onward⟩
  · exact .inl rfl
  · refine .inr ⟨chain, more, own, whole, ?_, onward⟩
    rw [← places_pauseJobs mode seconds batch, ← jobs, List.map_map]
    rfl

theorem course_reading {fileName : String} {known : List String} {effect last : Effect}
    {turns : List Turn} (due : effect.next = some (.read fileName known))
    (course : Course config folder effect turns last) :
    turns.length < 2 ∧ last.events = effect.events ∨
      ∃ reading second since own, turns = reading :: second :: since ∧
        reading.job = .read fileName known ∧
        second.job = afterReading config fileName known reading.clock
          (folder.read reading.files fileName) ∧
        Course config folder (second.effect config folder) since own ∧
        last = effect.followedBy own := by
  cases course with
  | rest => exact .inl ⟨Nat.zero_lt_two, rfl⟩
  | @turn _ _ reading more now onward =>
    obtain ⟨job, files, clock⟩ := reading
    obtain rfl := Option.some.inj (due.symm.trans now)
    cases onward with
    | rest => exact .inl ⟨Nat.one_lt_two, List.append_nil _⟩
    | @turn _ _ second since now onward =>
      obtain ⟨own, course, rfl⟩ := onward.behind
      refine .inr ⟨⟨_, files, clock⟩, second, since, own, rfl, rfl,
        (Option.some.inj now).symm, course, ?_⟩
      simp only [Effect.followedBy, Turn.effect, runJob, List.append_nil]

/-- The batch that a file is when a turn reads it. -/
def parsedAt? (config : Config) (folder : Folder) (fileName : String) (known : List String)
    (reading : Turn) : Option Parsed :=
  match folder.read reading.files fileName with
  | .error _ => none
  | .ok content => Batch.parse config known content reading.clock

/-- What follows reading ends the request at once, unless the file is a batch. -/
theorem effect_afterReading {fileName : String} {known : List String} {reading second : Turn}
    (next : second.job = afterReading config fileName known reading.clock
      (folder.read reading.files fileName)) :
    (parsedAt? config folder fileName known reading = none ∧
      ∃ key bindings outcome, outcome.isCompleted = false ∧ second.effect config folder =
        { events := tell config key bindings ++ [.finished outcome] }) ∨
      ∃ parsed, parsedAt? config folder fileName known reading = some parsed ∧
        second.effect config folder =
          Effect.followedBy
            { events := (Batch.openingMessages config fileName parsed).map .message }
            (drive config (.ofParsed config fileName parsed)) := by
  obtain ⟨job, files, clock⟩ := second
  obtain rfl := next
  unfold parsedAt?
  cases folder.read reading.files fileName with
  | error error => exact .inl ⟨rfl, .readError, [], .readFailed, rfl, rfl⟩
  | ok content =>
    dsimp only [Turn.effect, afterReading, runJob]
    cases Batch.parse config known content reading.clock with
    | none => exact .inl ⟨rfl, .executionCancelled, _, .cancelled, rfl, rfl⟩
    | some parsed => exact .inr ⟨parsed, rfl, rfl⟩

end ConsoleBatch.Run
