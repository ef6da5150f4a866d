import ConsoleBatch.Proofs.PauseLine
import ConsoleBatch.Proofs.Safety

/-! Every line of a file is accounted for once.

The account of a file is read off its lines one after the other, and what a line adds is said by one
rule for each of its meanings. No rule looks at the linter, and no two rules apply to one line. -/

namespace ConsoleBatch.Batch

open Decimal (Double)
open Text

def Drops (security : Security) (text : String) : Prop :=
  security.removeDangerousCommands = true ∧ isDangerous text security.commandBlacklist = true

inductive Means (security : Security) (text : String) : Meaning → Prop
  | pause {seconds : Double} (sleeps : StartsWithSleep text)
      (answer : PauseRequest text (.ok seconds)) : Means security text (.pause seconds)
  | badSleep {reason : SleepError} (sleeps : StartsWithSleep text)
      (answer : PauseRequest text (.error reason)) : Means security text (.badSleep reason)
  | dropped (awake : ¬ StartsWithSleep text) (drops : Drops security text) :
      Means security text .dropped
  | command (awake : ¬ StartsWithSleep text) (kept : ¬ Drops security text) :
      Means security text .command

theorem isDropped_iff {security : Security} {text : String} :
    isDropped security text = true ↔ Drops security text := by
  simp [isDropped, Drops]

theorem meaning_of_means {security : Security} {text : String} {means : Meaning}
    (rule : Means security text means) : meaning security text = means := by
  cases rule with
  | pause sleeps answer | badSleep sleeps answer =>
    simp [meaning, isSleepDirective_iff.mpr sleeps, sleepSeconds_eq_iff.mpr answer]
  | dropped awake drops | command awake drops =>
    rw [← isSleepDirective_iff] at awake
    rw [← isDropped_iff] at drops
    simp [meaning, awake, drops]

theorem means_meaning (security : Security) (text : String) :
    Means security text (meaning security text) := by
  unfold meaning
  split
  · rename_i sleeps
    cases found : sleepSeconds text with
    | ok seconds => exact .pause (isSleepDirective_iff.mp sleeps) (sleepSeconds_eq_iff.mp found)
    | error reason =>
      exact .badSleep (isSleepDirective_iff.mp sleeps) (sleepSeconds_eq_iff.mp found)
  · rename_i awake
    rw [isSleepDirective_iff] at awake
    split
    · rename_i drops
      exact .dropped awake (isDropped_iff.mp drops)
    · rename_i kept
      rw [isDropped_iff] at kept
      exact .command awake kept

structure Account where
  actions : List Action
  skipped : Nat
  rejected : List Warning

namespace Account

def empty : Account := ⟨[], 0, []⟩

def add (account : Account) (number : Nat) (text : String) : Meaning → Account
  | .pause seconds => { account with actions := .pause seconds :: account.actions }
  | .badSleep reason =>
    { account with rejected := .invalidSleep number text reason :: account.rejected }
  | .dropped => { account with skipped := account.skipped + 1 }
  | .command => { account with actions := .command text :: account.actions }

def size (account : Account) : Nat :=
  account.actions.length + account.skipped + account.rejected.length

theorem size_add (account : Account) (number : Nat) (text : String) (means : Meaning) :
    (account.add number text means).size = account.size + 1 := by
  cases means <;> simp only [add, size, List.length_cons] <;> omega

end Account

/-- A line without its outer blanks that is neither empty nor a comment. -/
def Significant (raw : String) : Prop :=
  trimmed raw ≠ "" ∧ (trimmed raw).toList.head? ≠ some '#'

instance (raw : String) : Decidable (Significant raw) :=
  inferInstanceAs (Decidable (_ ∧ _))

/-- What lines come to, the first of which has the number given. -/
inductive Tally (security : Security) : Nat → List String → Account → Prop
  | nothing (number : Nat) : Tally security number [] .empty
  | meaningless {number : Nat} {raw : String} {raws : List String} {account : Account}
      (idle : ¬ Significant raw) (onward : Tally security (number + 1) raws account) :
      Tally security number (raw :: raws) account
  | line {number : Nat} {raw : String} {raws : List String} {account : Account} {means : Meaning}
      (significant : Significant raw) (rule : Means security (trimmed raw) means)
      (onward : Tally security (number + 1) raws account) :
      Tally security number (raw :: raws) (account.add number (trimmed raw) means)

namespace Tally

variable {security : Security} {number : Nat} {raws : List String} {account other : Account}

theorem unique (first : Tally security number raws account)
    (second : Tally security number raws other) : account = other := by
  induction first generalizing other with
  | nothing => cases second; rfl
  | meaningless idle _ ih =>
    cases second with
    | meaningless _ onward => exact ih onward
    | line significant => exact absurd significant idle
  | line significant rule _ ih =>
    cases second with
    | meaningless idle => exact absurd significant idle
    | line _ rule' onward =>
      have same := (meaning_of_means rule).symm.trans (meaning_of_means rule')
      rw [ih onward, same]

theorem size_eq (tally : Tally security number raws account) :
    account.size = raws.countP fun raw => Significant raw := by
  induction tally with
  | nothing => rfl
  | meaningless idle _ ih => simp [idle, ih]
  | line significant _ _ ih => simp [significant, Account.size_add, ih]

theorem isLength (tally : Tally security number raws account) {seconds : Double}
    (member : .pause seconds ∈ account.actions) : IsLength seconds := by
  induction tally with
  | nothing => cases member
  | meaningless _ _ ih => exact ih member
  | line _ rule _ ih =>
    cases rule with
    | badSleep | dropped => exact ih member
    | command =>
      rcases List.mem_cons.mp member with same | later
      · cases same
      · exact ih later
    | pause _ answer =>
      rcases List.mem_cons.mp member with same | later
      · cases same
        cases answer with
        | length _ _ fits => exact fits
      · exact ih later

end Tally

def Warning.Before (first second : Warning) : Prop :=
  ∃ one two, first.lineNumber? = some one ∧ second.lineNumber? = some two ∧ one < two

/-- Rejected lines come with their own numbers, from the first line on and in the order of the
file. -/
theorem Tally.rejected_in_order {security : Security} {number : Nat} {raws : List String}
    {account : Account} (tally : Tally security number raws account) :
    (∀ warning ∈ account.rejected, ∃ later, warning.lineNumber? = some later ∧ number ≤ later) ∧
      account.rejected.Pairwise Warning.Before := by
  induction tally with
  | nothing => exact ⟨by simp [Account.empty], .nil⟩
  | @meaningless number _ _ account _ _ ih =>
    refine ⟨?_, ih.2⟩
    intro warning member
    obtain ⟨later, here, bound⟩ := ih.1 warning member
    exact ⟨later, here, by omega⟩
  | @line number raw _ account means _ _ _ ih =>
    have behind : ∀ warning ∈ account.rejected,
        ∃ later, warning.lineNumber? = some later ∧ number < later := ih.1
    have onward : ∀ warning ∈ account.rejected,
        ∃ later, warning.lineNumber? = some later ∧ number ≤ later := by
      intro warning member
      obtain ⟨later, here, bound⟩ := behind warning member
      exact ⟨later, here, Nat.le_of_lt bound⟩
    cases means with
    | pause | dropped | command => exact ⟨onward, ih.2⟩
    | badSleep reason =>
      refine ⟨?_, List.pairwise_cons.mpr ⟨?_, ih.2⟩⟩
      · intro warning member
        rcases List.mem_cons.mp member with rfl | member
        · exact ⟨number, rfl, Nat.le_refl _⟩
        · exact onward warning member
      · intro warning member
        obtain ⟨later, here, bound⟩ := behind warning member
        exact ⟨number, later, rfl, here, bound⟩

def Parsed.account (batch : Parsed) : Account where
  actions := batch.actions
  skipped := batch.skipped
  rejected := batch.invalidSleeps

theorem isSignificant_iff {number : Nat} {raw : String} :
    Line.isSignificant ⟨number, trimmed raw⟩ = true ↔ Significant raw := by
  unfold Line.isSignificant Significant
  rw [Ne, ← String.toList_inj]
  cases start : (trimmed raw).toList with
  | nil => simp
  | cons c rest => simp

theorem numberedLines_cons (number : Nat) (raw : String) (raws : List String) :
    numberedLines number (raw :: raws) =
      if Significant raw then ⟨number, trimmed raw⟩ :: numberedLines (number + 1) raws
      else numberedLines (number + 1) raws := by
  split
  · rename_i significant
    exact numberedLines_significant (isSignificant_iff.mpr significant) raws
  · rename_i idle
    exact numberedLines_idle (mt isSignificant_iff.mp idle) raws

def rejection? (security : Security) (line : Line) : Option Warning :=
  (badSleep? security line).map (.invalidSleep line.number line.text)

def accountOf (security : Security) (lines : List Line) : Account where
  actions := lines.filterMap (action? security)
  skipped := lines.countP (isSkipped security)
  rejected := lines.filterMap (rejection? security)

theorem accountOf_cons (security : Security) (line : Line) (rest : List Line) :
    accountOf security (line :: rest) =
      (accountOf security rest).add line.number line.text (meaning security line.text) := by
  cases means : meaning security line.text <;>
    simp [accountOf, Account.add, action?, isSkipped, rejection?, badSleep?, means]

theorem tally_accountOf (security : Security) (number : Nat) (raws : List String) :
    Tally security number raws (accountOf security (numberedLines number raws)) := by
  induction raws generalizing number with
  | nil => exact .nothing number
  | cons raw raws ih =>
    rw [numberedLines_cons]
    split
    · rename_i significant
      rw [accountOf_cons]
      exact .line significant (means_meaning _ _) (ih (number + 1))
    · rename_i idle
      exact .meaningless idle (ih (number + 1))

theorem rejected_lineWarnings (security : Security) (lines : List Line)
    (found : List (Option String)) (size : found.length = lines.length) :
    (List.zipWith (lineWarnings security) lines found).flatten.filter Warning.isInvalidSleep =
      lines.filterMap (rejection? security) := by
  induction lines generalizing found with
  | nil => rfl
  | cons line rest ih =>
    cases found with
    | nil => cases size
    | cons lint found =>
      have here : (lineWarnings security line lint).filter Warning.isInvalidSleep =
          (rejection? security line).toList := by
        unfold lineWarnings rejection?
        cases lint <;> cases badSleep? security line <;> rfl
      rw [List.zipWith_cons_cons, List.flatten_cons, List.filter_append, here,
        ih found (Nat.succ.inj size)]
      cases reason : rejection? security line <;> simp [reason]

theorem account_assemble (config : Config) {lines : List Line} {pass : LintPass}
    (size : pass.warnings.length = lines.length) :
    (assemble config lines pass).account = accountOf config.security lines := by
  have none_at_end : ∀ quiet : Bool,
      (if quiet then [Warning.emptyFile] else []).filter Warning.isInvalidSleep = [] := by
    intro quiet
    cases quiet <;> rfl
  unfold Parsed.account Parsed.invalidSleeps assemble accountOf
  simp only [List.filter_append, rejected_lineWarnings _ _ _ size, none_at_end, List.append_nil]

theorem account_parse {config : Config} {known : List String} {content : String}
    {clock : Lint.Clock} {batch : Parsed} (read : parse config known content clock = some batch) :
    batch.account = accountOf config.security (numberedLines 1 (contentLines content)) := by
  obtain ⟨pass, size, rfl⟩ := parse_some read
  exact account_assemble config size

theorem tally_parse {config : Config} {known : List String} {content : String}
    {clock : Lint.Clock} {batch : Parsed} (read : parse config known content clock = some batch) :
    Tally config.security 1 (contentLines content) batch.account := by
  rw [account_parse read]
  exact tally_accountOf config.security 1 (contentLines content)

theorem skipped_le_length {config : Config} {known : List String} {content : String}
    {clock : Lint.Clock} {batch : Parsed} (read : parse config known content clock = some batch) :
    batch.skipped ≤ content.toList.length := by
  have lines : (contentLines content).length ≤ content.toList.length := by
    rw [contentLines, List.length_map]
    exact Text.length_lines_le _
  have counted := (tally_parse read).size_eq
  have few : List.countP (fun raw => Significant raw) (contentLines content) ≤ _ :=
    List.countP_le_length
  change batch.actions.length + batch.skipped + batch.invalidSleeps.length = _ at counted
  omega

/-- A batch is the account of its file, which is the only one: each significant line is a pause, a
rejected `!sleep`, a dropped command or a command, in the order of the lines. -/
theorem significant_lines_accounted (config : Config) (known : List String) (content : String)
    (clock : Lint.Clock) (batch : Parsed)
    (read : parse config known content clock = some batch) :
    (∀ account, Tally config.security 1 (contentLines content) account ↔
      account = ⟨batch.actions, batch.skipped, batch.invalidSleeps⟩) ∧
    batch.commandCount + batch.pauseCount + batch.skipped + batch.invalidSleeps.length =
      (contentLines content).countP (fun raw => Significant raw) ∧
    (∀ seconds, .pause seconds ∈ batch.actions → IsLength seconds) ∧
    batch.invalidSleeps.Pairwise Warning.Before := by
  have tally := tally_parse read
  have all_actions : batch.commandCount + batch.pauseCount = batch.actions.length :=
    Nat.add_sub_cancel' List.countP_le_length
  refine ⟨?_, ?_, fun seconds => tally.isLength, tally.rejected_in_order.2⟩
  · intro account
    constructor
    · intro other
      exact other.unique tally
    · rintro rfl
      exact tally
  · rw [all_actions]
    exact tally.size_eq

def mixed : String :=
  "  say hi \r\n# note\n\n!SLEEP 2.5 s\n!sleep soon\n/Stop now\nsay bye"

theorem parse_mixed :
    (parse {} ["say"] mixed (.still 0)).map (fun batch => (batch.actions, batch.invalidSleeps)) =
      some ([.command "say hi", .pause ⟨0x4004000000000000⟩, .command "say bye"],
        [.invalidSleep 5 "!sleep soon" (.notANumber "soon")]) := by
  decide +kernel

theorem significant_lines_accounted_mixed :
    ∃ batch, parse {} ["say"] mixed (.still 0) = some batch ∧
      Tally {} 1 (contentLines mixed)
        ⟨[.command "say hi", .pause ⟨0x4004000000000000⟩, .command "say bye"], batch.skipped,
          [.invalidSleep 5 "!sleep soon" (.notANumber "soon")]⟩ ∧
      batch.commandCount + batch.pauseCount + batch.skipped + batch.invalidSleeps.length =
        (contentLines mixed).countP (fun raw => Significant raw) ∧
      IsLength ⟨0x4004000000000000⟩ := by
  obtain ⟨batch, read, here⟩ := Option.map_eq_some_iff.mp parse_mixed
  obtain ⟨actions, rejected⟩ := Prod.mk.inj here
  obtain ⟨account, count, lengths, _⟩ :=
    significant_lines_accounted {} ["say"] mixed (.still 0) batch read
  refine ⟨batch, read, (account _).mpr ?_, count, lengths _ ?_⟩
  · rw [actions, rejected]
  · rw [actions]
    simp

end ConsoleBatch.Batch
