import ConsoleBatch.Proofs.Advisory

/-! The commands of a file, written down as a file again.

A command is trimmed, fits on one line, and is neither a comment nor a pause nor dropped. A line of
this kind is read as itself, so that a file of such lines has them as its commands and nothing
else. -/

namespace ConsoleBatch

namespace Text

/-- A line that is cut out as it was written. -/
structure IsLine (line : List Char) : Prop where
  nonempty : line ≠ []
  unbroken : '\n' ∉ line
  no_return : line.getLast? ≠ some '\r'

theorem lines_cons {line : List Char} (whole : IsLine line) (rest : List Char) :
    lines (line ++ '\n' :: rest) = line :: lines rest := by
  rw [lines_feed whole.unbroken, withoutReturn, if_neg whole.no_return]

theorem lines_single {line : List Char} (whole : IsLine line) : lines line = [line] := by
  rw [lines_unbroken whole.unbroken, if_neg]
  rw [List.isEmpty_iff]
  exact whole.nonempty

end Text

namespace Batch

open Run (commandsIn)
open Text

/-- A text has one command on each line; behind the last one there may be a line feed or not. -/
inductive OnePerLine : List String → String → Prop
  | nothing : OnePerLine [] ""
  | last (command : String) : OnePerLine [command] command
  | line (command : String) {commands : List String} {text : String}
      (onward : OnePerLine commands text) :
      OnePerLine (command :: commands) (command ++ "\n" ++ text)

theorem onePerLine_join (commands : List String) :
    OnePerLine commands (String.join (commands.map (· ++ "\n"))) := by
  induction commands with
  | nil => exact .nothing
  | cons command commands ih =>
    rw [List.map_cons, String.join_cons]
    exact .line command ih

theorem contentLines_onePerLine {commands : List String} {text : String}
    (written : OnePerLine commands text) (whole : ∀ command ∈ commands, IsLine command.toList) :
    contentLines text = commands := by
  unfold contentLines
  induction written with
  | nothing => rw [String.toList_empty, lines_nil, List.map_nil]
  | last command =>
    rw [lines_single (whole command List.mem_cons_self), List.map_singleton, String.ofList_toList]
  | @line command commands text onward ih =>
    have split : (command ++ "\n" ++ text).toList = command.toList ++ '\n' :: text.toList := by
      simp
    rw [split, lines_cons (whole command List.mem_cons_self), List.map_cons, String.ofList_toList,
      ih fun other member => whole other (List.mem_cons_of_mem _ member)]

structure Normal (security : Security) (text : String) : Prop where
  bare : trimmed text = text
  unbroken : '\n' ∉ text.toList
  significant : Significant text
  command : Means security text .command

namespace Normal

variable {security : Security} {text : String}

theorem isLine (normal : Normal security text) : IsLine text.toList where
  nonempty nothing := by
    apply normal.significant.1
    rw [normal.bare]
    exact String.toList_eq_nil_iff.mp nothing
  unbroken := normal.unbroken
  no_return finish := by
    -- A carriage return is a blank, and there is none at the end.
    have bare := (bare_trim text.toList).back '\r'
    rw [← toList_trimmed, normal.bare] at bare
    cases bare finish

end Normal

variable {security : Security} {commands : List String}

theorem tally_normal (number : Nat) (normal : ∀ text ∈ commands, Normal security text) :
    Tally security number commands ⟨commands.map .command, 0, []⟩ := by
  induction commands generalizing number with
  | nil => exact .nothing number
  | cons text commands ih =>
    have here := normal text List.mem_cons_self
    have onward := ih (number + 1) fun other member => normal other (List.mem_cons_of_mem _ member)
    have rule : Means security (trimmed text) .command := by
      rw [here.bare]
      exact here.command
    have tally := Tally.line here.significant rule onward
    rw [here.bare] at tally
    exact tally

theorem normal_of_parse {config : Config} {known : List String} {content : String}
    {clock : Lint.Clock} {batch : Parsed} (read : parse config known content clock = some batch)
    {text : String} (member : text ∈ commandsIn batch.actions) : Normal config.security text := by
  obtain ⟨pass, _, rfl⟩ := parse_some read
  obtain ⟨⟨number, text⟩, listed, rfl, means⟩ := mem_commandsIn_assemble member
  obtain ⟨significant, raw, present, rfl⟩ := significant_of_mem_numberedLines listed
  have rule := means_meaning config.security (trimmed raw)
  rw [means] at rule
  refine ⟨trimmed_trimmed raw, ?_, ?_, rule⟩
  · intro feed
    rw [toList_trimmed] at feed
    exact feed_not_mem_contentLines present ((infix_trim raw.toList).subset feed)
  · unfold Significant
    rw [trimmed_trimmed]
    exact isSignificant_iff.mp significant

theorem map_commandsIn (actions : List Action) :
    (commandsIn actions).map .command = actions.filter Action.isCommand := by
  induction actions with
  | nil => rfl
  | cons action actions ih =>
    cases action with
    | command text => exact congrArg (.command text :: ·) ih
    | pause => exact ih

/-- Written one per line, the commands of a file are read as the same commands under the same
filter, however it is linted: there is no pause, nothing is dropped and nothing is rejected. -/
theorem commands_in_normal_form (config config' : Config)
    (same : config.security = config'.security) (known known' : List String) (content : String)
    (clock clock' : Lint.Clock) (batch batch' : Parsed)
    (read : parse config known content clock = some batch) (text : String)
    (written : OnePerLine (commandsIn batch.actions) text)
    (read' : parse config' known' text clock' = some batch') :
    batch'.actions = batch.actions.filter Action.isCommand ∧ batch'.skipped = 0 ∧
      batch'.invalidSleeps = [] := by
  have normal : ∀ command ∈ commandsIn batch.actions, Normal config.security command :=
    fun command member => normal_of_parse read member
  have tally := tally_parse read'
  rw [contentLines_onePerLine written fun command member => (normal command member).isLine,
    ← same] at tally
  have account := tally.unique (tally_normal 1 normal)
  rw [← map_commandsIn]
  exact ⟨congrArg Account.actions account, congrArg Account.skipped account,
    congrArg Account.rejected account⟩

def ragged : String :=
  "\u2003/say a\rb \r\n!sleep 1\nstop\n# c\n\u0085tp\t x"

theorem commands_in_normal_form_ragged :
    ∃ batch batch', parse {} [] ragged (.still 0) = some batch ∧
      commandsIn batch.actions = ["/say a\rb", "tp\t x"] ∧
      parse hurried ["tp"] "/say a\rb\ntp\t x\n" (.still 7) = some batch' ∧
      batch'.actions = [.command "/say a\rb", .command "tp\t x"] ∧ batch'.skipped = 0 ∧
      batch'.invalidSleeps = [] := by
  have shown : (parse {} [] ragged (.still 0)).map Parsed.actions =
      some [.command "/say a\rb", .pause ⟨0x3ff0000000000000⟩, .command "tp\t x"] := by
    decide +kernel
  obtain ⟨batch, read, actions⟩ := Option.map_eq_some_iff.mp shown
  have again : (parse hurried ["tp"] "/say a\rb\ntp\t x\n" (.still 7)).isSome = true := by
    decide +kernel
  obtain ⟨batch', read'⟩ := Option.isSome_iff_exists.mp again
  have commands : commandsIn batch.actions = ["/say a\rb", "tp\t x"] := by
    rw [actions]
    rfl
  have written : OnePerLine (commandsIn batch.actions) "/say a\rb\ntp\t x\n" := by
    rw [commands]
    exact onePerLine_join ["/say a\rb", "tp\t x"]
  obtain ⟨same, rest⟩ := commands_in_normal_form {} hurried rfl [] ["tp"] ragged (.still 0)
    (.still 7) batch batch' read _ written read'
  rw [actions] at same
  exact ⟨batch, batch', read, commands, read', same, rest⟩

end Batch

end ConsoleBatch
