import ConsoleBatch.Proofs.Fidelity
import ConsoleBatch.Proofs.Passes
import ConsoleBatch.Proofs.Trimming

/-! What is dispatched for a file is safe.

A command passes through the cutting of lines, trimming, the choice of what a line means, and the
batch that is driven from pause to pause. Linting has no part in it: only the warnings of a batch
come from there. -/

namespace ConsoleBatch

open Text

theorem ok_of_toOption {Problem Value : Type} {answer : Except Problem Value} {value : Value}
    (found : answer.toOption = some value) : answer = .ok value := by
  cases answer with
  | error problem => cases found
  | ok other => rw [Option.some.inj found]

/-- What holds of a command from a file while dangerous commands are removed. -/
structure Safe (blacklist : List String) (command : String) : Prop where
  nonempty : command ≠ ""
  bare : Bare command.toList
  one_line : '\n' ∉ command.toList
  no_comment : command.toList.head? ≠ some '#'
  no_sleep : isSleepDirective command = false
  harmless : isDangerous command blacklist = false

namespace Batch

theorem length_lintLines (linter : LinterConfig) (ctx : Lint.Context) (clock : Lint.Clock)
    (lines : List Line) : (lintLines linter ctx clock lines).1.warnings.length = lines.length := by
  induction lines generalizing clock with
  | nil => rfl
  | cons line rest ih =>
    unfold lintLines
    split
    · simp [LintPass.stoppedBefore]
    · simp [LintPass.after, ih]

theorem parse_some {config : Config} {known : List String} {content : String}
    {clock : Lint.Clock} {parsed : Parsed} (read : parse config known content clock = some parsed) :
    ∃ pass : LintPass,
      pass.warnings.length = (numberedLines 1 (contentLines content)).length ∧
      parsed = assemble config (numberedLines 1 (contentLines content)) pass := by
  rw [parse_eq] at read
  split at read
  · cases read
  · exact ⟨_, length_lintLines _ _ _ _, (Option.some.inj read).symm⟩

theorem significant_of_mem_numberedLines {number : Nat} {raws : List String} {line : Line}
    (member : line ∈ numberedLines number raws) :
    line.isSignificant = true ∧ ∃ raw ∈ raws, line.text = trimmed raw := by
  obtain ⟨listed, significant⟩ := List.mem_filter.mp member
  obtain ⟨⟨raw, number⟩, numbered, rfl⟩ := List.mem_map.mp listed
  exact ⟨significant, raw, List.fst_mem_of_mem_zipIdx numbered, rfl⟩

theorem mem_commandsIn_assemble {config : Config} {lines : List Line} {pass : LintPass}
    {command : String} (member : command ∈ Run.commandsIn (assemble config lines pass).actions) :
    ∃ line ∈ lines, command = line.text ∧ meaning config.security line.text = .command := by
  obtain ⟨action, listed, text⟩ := List.mem_filterMap.mp member
  obtain ⟨line, present, means⟩ := List.mem_filterMap.mp listed
  refine ⟨line, present, ?_⟩
  unfold action? at means
  split at means
  · cases means
    cases text
  · rename_i same
    cases means
    cases text
    exact ⟨rfl, same⟩
  · cases means
  · cases means

theorem meaning_command {security : Security} {text : String}
    (means : meaning security text = .command) :
    isSleepDirective text = false ∧ isDropped security text = false := by
  unfold meaning at means
  split at means
  · split at means <;> cases means
  · rename_i awake
    split at means
    · cases means
    · rename_i kept
      exact ⟨Bool.eq_false_iff.mpr awake, Bool.eq_false_iff.mpr kept⟩

theorem feed_not_mem_contentLines {content raw : String} (member : raw ∈ contentLines content) :
    '\n' ∉ raw.toList := by
  obtain ⟨line, cut, rfl⟩ := List.mem_map.mp member
  rw [String.toList_ofList]
  exact feed_not_mem_lines cut

/-- The commands of a file are safe, and each is one of its lines without the blanks around it. -/
theorem safe_command {config : Config} {known : List String} {content : String}
    {clock : Lint.Clock} {parsed : Parsed} {command : String}
    (filtering : config.security.removeDangerousCommands = true)
    (read : parse config known content clock = some parsed)
    (member : command ∈ Run.commandsIn parsed.actions) :
    Safe config.security.commandBlacklist command ∧
      ∃ raw ∈ contentLines content, command = trimmed raw := by
  obtain ⟨pass, _, rfl⟩ := parse_some read
  obtain ⟨line, listed, rfl, means⟩ := mem_commandsIn_assemble member
  obtain ⟨significant, raw, present, same⟩ := significant_of_mem_numberedLines listed
  obtain ⟨awake, kept⟩ := meaning_command means
  obtain ⟨first, start, no_comment⟩ := (Option.any_eq_true _ _).mp significant
  refine ⟨⟨?_, ?_, ?_, ?_, awake, ?_⟩, raw, present, same⟩
  · intro empty
    rw [empty] at start
    cases start
  · rw [same, toList_trimmed]
    exact bare_trim raw.toList
  · intro feed
    rw [same, toList_trimmed] at feed
    exact feed_not_mem_contentLines present ((infix_trim raw.toList).subset feed)
  · rw [start]
    intro comment
    cases comment
    cases no_comment
  · unfold isDropped at kept
    rw [filtering, Bool.true_and] at kept
    exact kept

end Batch

namespace Run

open Batch (contentLines)
open Files (Folder Tree)

theorem parsedAt?_some {config : Config} {folder : Folder} {fileName : String}
    {known : List String} {reading : Turn} {parsed : Batch.Parsed}
    (read : parsedAt? config folder fileName known reading = some parsed) :
    ∃ content, folder.read reading.files fileName = .ok content ∧
      Batch.parse config known content reading.clock = some parsed := by
  unfold parsedAt? at read
  cases found : folder.read reading.files fileName with
  | error error =>
    rw [found] at read
    cases read
  | ok content =>
    rw [found] at read
    exact ⟨content, rfl, read⟩

namespace Session

/-- While dangerous commands are removed, every command that is dispatched for a request is safe,
and it is the trimmed text of one line of the file as one of the request's jobs read it. -/
theorem dispatched_commands_safe (config : Config) (folder : Folder) (files : Tree)
    (registry : List String) (before later : List Move) (requester name : String)
    (filtering : config.security.removeDangerousCommands = true) :
    let opened := (idle config folder files registry).after before
    let requested := opened.request requester name
    ∀ command ∈ dispatchedIn ((requested.after later).eventsOf opened.nextNumber),
      Safe config.security.commandBlacklist command ∧
        ∃ reading ∈ requested.turns opened.nextNumber later, ∃ fileName known content,
          reading.job = .read fileName known ∧
          folder.read reading.files fileName = .ok content ∧
          ∃ raw ∈ contentLines content, command = trimmed raw := by
  intro opened requested command dispatched
  obtain ⟨last, course, shown⟩ :=
    course_of_opening config folder files registry before later requester (.request name)
  have here : (requested.after later).eventsOf opened.nextNumber = last.events := shown
  rw [here] at dispatched
  have same_config : opened.config = config := config_after _ _
  have same_folder : opened.folder = folder := folder_after _ _
  rcases faithful_opening course with ⟨batch, since, becomes, faithful⟩ | ⟨silent, _⟩
  · obtain ⟨reading, ran, fileName, parsed, job, read, rfl⟩ := becomes_read becomes
    obtain ⟨content, found, parsing⟩ := parsedAt?_some read
    rw [same_config] at parsing
    rw [same_folder] at found
    have stands := faithful.in_order.subset dispatched
    rw [remaining_ofParsed] at stands
    obtain ⟨safe, line⟩ := Batch.safe_command filtering parsing stands
    exact ⟨safe, reading, ran, fileName, _, content, job, found, line⟩
  · rw [silent] at dispatched
    cases dispatched

def shelf : Tree where
  entries :=
    [(["greet.batch"], .file "  say hi  \n# note\n/STOP now\n!sleep 2\nsay bye\n".toUTF8)]

theorem locate_greet : (⟨".", ".batch"⟩ : Folder).locate shelf "greet" = .ok "greet.batch" :=
  ok_of_toOption (by decide +kernel)

def unlinted : Config :=
  { quietConfig with linter := { enabled := false } }

theorem dispatched_commands_safe_greet :
    let opened := idle unlinted ⟨".", ".batch"⟩ shelf []
    let requested := opened.request "first" "greet"
    "say bye" ∈ dispatchedIn ((requested.after
        [.run 0 (.still 0), .run 0 (.still 0), .run 0 (.still 0)]).eventsOf 0) ∧
      Safe unlinted.security.commandBlacklist "say bye" := by
  intro opened requested
  have dispatched : "say bye" ∈ dispatchedIn ((requested.after
      [.run 0 (.still 0), .run 0 (.still 0), .run 0 (.still 0)]).eventsOf 0) := by
    decide +kernel
  exact ⟨dispatched, (dispatched_commands_safe unlinted ⟨".", ".batch"⟩ shelf [] []
    [.run 0 (.still 0), .run 0 (.still 0), .run 0 (.still 0)] "first" "greet" rfl "say bye"
    dispatched).1⟩

end Session

end Run

end ConsoleBatch
