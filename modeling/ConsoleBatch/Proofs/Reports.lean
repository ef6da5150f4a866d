import ConsoleBatch.Cli.Commands
import ConsoleBatch.Proofs.Draining
import ConsoleBatch.Proofs.RoundTrip
import ConsoleBatch.Proofs.Script

/-! What the program prints: the members of a lint report, and the commands of a run.

A report is read back member by member, whatever order its members are kept in. The lines of a run
are those of its dispatches, for the events of the drained session are what is shown. -/

namespace ConsoleBatch

namespace Cli

open Batch (Parsed)
open Json (Printable Value)
open Run (Event Session commandsIn dispatchedIn dispatchedIn_append)

def listedCommand? (item : Value) : Option String :=
  (item.member? "command").bind Value.string?

def listedCommands (report : Value) : List String :=
  match report.member? "actions" with
  | some (.array items) => items.filterMap listedCommand?
  | _ => []

theorem listedCommand?_reread (action : Action) :
    listedCommand? (actionValue action).reread = action.text? := by
  cases action with
  | command text =>
    have member : (actionValue (.command text)).reread.member? "command" = some (.string text) := by
      rw [actionValue, Json.member?_reread]
      rfl
    rw [listedCommand?, member]
    rfl
  | pause seconds =>
    have missing : (actionValue (.pause seconds)).reread.member? "command" = none := by
      rw [actionValue, Json.member?_reread]
      rfl
    rw [listedCommand?, missing]
    rfl

theorem member?_actions (fileName : String) (batch : Parsed) (timings : Bool) :
    (reportValue fileName batch timings).reread.member? "actions" =
      some (.array (batch.actions.map fun action => (actionValue action).reread)) := by
  have reread : Value.reread (.array (batch.actions.map actionValue)) =
      .array (batch.actions.map fun action => (actionValue action).reread) := by
    rw [Value.reread, Json.rebuilt_array, List.map_map]
    rfl
  rw [reportValue, Json.member?_reread, ← reread]
  simp [List.lookup_cons]

theorem member?_skipped (fileName : String) {batch : Parsed} (fits : batch.skipped < Json.wordLimit)
    (timings : Bool) :
    (reportValue fileName batch timings).reread.member? "skipped" =
      some (.natural batch.skipped) := by
  have reread : (Value.natural batch.skipped).reread = .natural batch.skipped :=
    Json.reread_of_plain (.natural fits)
  rw [reportValue, Json.member?_reread]
  simp [List.lookup_cons, reread]

theorem listedCommands_reread (fileName : String) (batch : Parsed) (timings : Bool) :
    listedCommands (reportValue fileName batch timings).reread = commandsIn batch.actions := by
  have each : listedCommand? ∘ (fun action => (actionValue action).reread) = Action.text? :=
    funext listedCommand?_reread
  rw [listedCommands, member?_actions]
  dsimp only
  rw [List.filterMap_map, each]
  rfl

theorem printable_actionValue (action : Action) : Printable (actionValue action) := by
  cases action with
  | command text =>
    exact Json.printable_ofMembers (List.forall_mem_singleton.mpr (.string text))
  | pause seconds =>
    exact Json.printable_ofMembers (List.forall_mem_singleton.mpr (Json.printable_double seconds))

theorem printable_warningValue (warning : Batch.Warning) : Printable (warningValue warning) := by
  have number : ∀ n, Printable (.natural n) := fun _ => .number trivial
  apply Json.printable_ofMembers
  cases warning <;> simp [number, Printable.string]

theorem printable_timingsValue (timings : Lint.Timings) : Printable (timingsValue timings) := by
  apply Json.printable_ofMembers
  simp only [List.forall_mem_map]
  exact fun _ _ => Json.printable_double _

theorem printable_reportValue (fileName : String) (batch : Parsed) (timings : Bool) :
    Printable (reportValue fileName batch timings) := by
  have actions : Printable (.array (batch.actions.map actionValue)) :=
    .array (List.forall_mem_map.mpr fun action _ => printable_actionValue action)
  have warnings : Printable (.array (batch.warnings.map warningValue)) :=
    .array (List.forall_mem_map.mpr fun warning _ => printable_warningValue warning)
  have times : Printable (if timings then timingsValue batch.timings else .null) := by
    split
    · exact printable_timingsValue _
    · exact .null
  apply Json.printable_ofMembers
  simp only [List.forall_mem_cons]
  exact ⟨.string _, actions, .number trivial, .bool _, warnings, times, List.forall_mem_nil _⟩

theorem read?_printed (fileName : String) (batch : Parsed) (timings : Bool) :
    Json.read? ((reportValue fileName batch timings).pretty ++ "\n") =
      some (reportValue fileName batch timings).reread :=
  Json.read?_write Json.spaced_indented (printable_reportValue fileName batch timings)
    (List.forall_mem_singleton.mpr (.inr rfl))

theorem length_read_le {folder : Files.Folder} {files : Files.Tree} {fileName content : String}
    (read : folder.read files fileName = .ok content) : content.toList.length ≤ maxFileSize := by
  unfold Files.Folder.read Files.Folder.readAt at read
  split at read
  · split at read
    · cases read
    · rename_i small
      cases read
      exact Nat.le_trans (Text.length_decodeLossy_le _) (Nat.le_of_not_lt small)
  all_goals cases read

/-- No file is so large that its dropped commands do not fit a machine word. -/
theorem skipped_fits {config : Config} {folder : Files.Folder} {files : Files.Tree}
    {clock : Lint.Clock} {fileName : String} {known : List String} {batch : Parsed}
    (found : Run.contentsAt config folder files clock fileName known = .batch batch) :
    batch.skipped < Json.wordLimit := by
  unfold Run.contentsAt at found
  cases read : folder.read files fileName with
  | error error =>
    rw [read] at found
    cases found
  | ok content =>
    rw [read] at found
    cases parsed : Batch.parse config known content clock with
    | none =>
      simp only [parsed] at found
      cases found
    | some whole =>
      simp only [parsed] at found
      cases found
      have few := Batch.skipped_le_length parsed
      have short := length_read_le read
      have large : maxFileSize < Json.wordLimit := by decide
      omega

def Act.line? : Act → Option String
  | .out line => some line
  | _ => none

def printed (acts : List Act) : List String :=
  acts.filterMap Act.line?

def shownCommand (command : String) : String :=
  "> " ++ command

def linesText (lines : List String) : String :=
  String.join (lines.map (· ++ "\n"))

theorem stdout_eq (transcript : Transcript) :
    transcript.stdout = linesText (printed transcript.acts) := by
  obtain ⟨acts, code⟩ := transcript
  unfold Transcript.stdout linesText printed
  dsimp only
  induction acts with
  | nil => rfl
  | cons act rest ih =>
    rw [List.map_cons, String.join_cons, ih]
    cases act with
    | out line => exact String.join_cons.symm
    | err line | wait millis => exact String.empty_append

theorem printed_append (first second : List Act) :
    printed (first ++ second) = printed first ++ printed second :=
  List.filterMap_append

theorem printed_showEvents (events : List Event) :
    printed (events.flatMap showEvent) = (dispatchedIn events).map shownCommand := by
  induction events with
  | nil => rfl
  | cons event rest ih =>
    rw [List.flatMap_cons, printed_append, ih]
    cases event <;> rfl

theorem printed_waitFor (job : Run.Job) : printed (waitFor job) = [] := by
  cases job <;> rfl

theorem printed_showTasks (ran : List Session.Ran) :
    printed (ran.flatMap showTask) =
      (dispatchedIn (ran.flatMap Session.Ran.events)).map shownCommand := by
  induction ran with
  | nil => rfl
  | cons task rest ih =>
    rw [List.flatMap_cons, List.flatMap_cons, printed_append, ih, showTask, printed_append,
      printed_waitFor, printed_showEvents, List.nil_append, dispatchedIn_append, List.map_append]

theorem printed_failure (lines : List String) : printed (failure lines).acts = [] := by
  change printed (lines.map .err) = []
  induction lines with
  | nil => rfl
  | cons line rest ih => exact ih

end Cli

end ConsoleBatch
