import ConsoleBatch.Proofs.Journal

/-! Where a lint check and the parser judge the same line.

A `!sleep` line is judged by one check only, and in the words of the parser. A command is judged by
the blacklist check and by the filter, which agree; but the filter also drops lines that start with
`!`, and about those the check says nothing. -/

namespace ConsoleBatch

open Text

namespace Batch

open Lint (Clock Context firstWarning? lineKind?)

variable {raws : List String} {index : Nat} {raw : String}

theorem mem_numberedLines {line : Line} :
    line ∈ numberedLines 1 raws ↔ ∃ index raw, raws[index]? = some raw ∧ Significant raw ∧
      line = ⟨index + 1, trimmed raw⟩ := by
  unfold numberedLines
  rw [List.mem_filter, List.mem_map]
  constructor
  · rintro ⟨⟨⟨raw, number⟩, numbered, rfl⟩, significant⟩
    obtain ⟨bound, here⟩ := List.mem_zipIdx_iff_le_and_getElem?_sub.mp numbered
    refine ⟨number - 1, raw, here, isSignificant_iff.mp significant, ?_⟩
    rw [Nat.sub_add_cancel bound]
  · rintro ⟨index, raw, here, significant, rfl⟩
    refine ⟨⟨(raw, index + 1), ?_, rfl⟩, isSignificant_iff.mpr significant⟩
    rw [Nat.add_comm]
    exact List.mk_add_mem_zipIdx_iff_getElem?.mpr here

theorem exists_line_iff (here : raws[index]? = some raw) {holds : Line → Prop} :
    (∃ line ∈ numberedLines 1 raws, line.number = index + 1 ∧ holds line) ↔
      Significant raw ∧ holds ⟨index + 1, trimmed raw⟩ := by
  constructor
  · rintro ⟨line, member, number, about⟩
    obtain ⟨other, raw', there, significant, rfl⟩ := mem_numberedLines.mp member
    obtain rfl : other = index := Nat.succ.inj number
    obtain rfl := Option.some.inj (here.symm.trans there)
    exact ⟨significant, about⟩
  · rintro ⟨significant, about⟩
    exact ⟨_, mem_numberedLines.mpr ⟨index, raw, here, significant, rfl⟩, rfl, about⟩

theorem countP_numberedLines (chosen : String → Bool) (number : Nat) (raws : List String) :
    (numberedLines number raws).countP (fun line => chosen line.text) =
      raws.countP fun raw => decide (Significant raw) && chosen (trimmed raw) := by
  induction raws generalizing number with
  | nil => rfl
  | cons raw raws ih =>
    rw [numberedLines_cons]
    by_cases significant : Significant raw
    · rw [if_pos significant, List.countP_cons, List.countP_cons, ih]
      simp [significant]
    · rw [if_neg significant, List.countP_cons, ih]
      simp [significant]

theorem report_mem_iff {Reason : Type} {warnings : List Warning} {lines : List Line}
    {kind : Warning → Bool} {report : Nat → String → Reason → Warning}
    {found : Line → Option Reason}
    (own : ∀ number text reason, kind (report number text reason) = true)
    (distinct : ∀ {number text reason number' text' reason'},
      report number text reason = report number' text' reason' →
        number = number' ∧ text = text' ∧ reason = reason')
    (reports : warnings.filter kind =
      lines.filterMap fun line => (found line).map (report line.number line.text))
    {number : Nat} {text : String} {reason : Reason} :
    report number text reason ∈ warnings ↔
      ∃ line ∈ lines, line.number = number ∧ line.text = text ∧ found line = some reason := by
  have filtered : report number text reason ∈ warnings ↔
      report number text reason ∈ warnings.filter kind := by
    rw [List.mem_filter, own]
    exact (and_iff_left rfl).symm
  rw [filtered, reports, List.mem_filterMap]
  simp only [Option.map_eq_some_iff]
  constructor
  · rintro ⟨line, member, reason', here, same⟩
    obtain ⟨rfl, rfl, rfl⟩ := distinct same
    exact ⟨line, member, rfl, rfl, here⟩
  · rintro ⟨line, member, rfl, rfl, here⟩
    exact ⟨line, member, reason, here, rfl⟩

variable {batch : Parsed} {linter : LinterConfig} {ctx : Context} {security : Security}
  {number : Nat} {text message : String} {reason : SleepError}

theorem lint_mem_iff
    (complaints : batch.lintWarnings = (numberedLines 1 raws).filterMap (complaint? linter ctx)) :
    .lint number text message ∈ batch.warnings ↔
      ∃ line ∈ numberedLines 1 raws, line.number = number ∧ line.text = text ∧
        firstWarning? linter ctx line.text = some message := by
  apply report_mem_iff (fun _ _ _ => rfl) _ complaints
  intro number text message number' text' message' same
  cases same
  exact ⟨rfl, rfl, rfl⟩

theorem lint_number_iff
    (complaints : batch.lintWarnings = (numberedLines 1 raws).filterMap (complaint? linter ctx)) :
    (∃ text message, .lint number text message ∈ batch.warnings) ↔
      ∃ index raw, number = index + 1 ∧ raws[index]? = some raw ∧ Significant raw ∧
        (firstWarning? linter ctx (trimmed raw)).isSome = true := by
  constructor
  · rintro ⟨text, message, member⟩
    obtain ⟨line, listed, rfl, rfl, found⟩ := (lint_mem_iff complaints).mp member
    obtain ⟨index, raw, here, significant, rfl⟩ := mem_numberedLines.mp listed
    have warned := Option.isSome_iff_exists.mpr ⟨message, found⟩
    exact ⟨index, raw, rfl, here, significant, warned⟩
  · rintro ⟨index, raw, rfl, here, significant, warned⟩
    obtain ⟨message, found⟩ := Option.isSome_iff_exists.mp warned
    have listed := mem_numberedLines.mpr ⟨index, raw, here, significant, rfl⟩
    exact ⟨_, message, (lint_mem_iff complaints).mpr ⟨_, listed, rfl, rfl, found⟩⟩

theorem length_lintWarnings
    (complaints : batch.lintWarnings = (numberedLines 1 raws).filterMap (complaint? linter ctx)) :
    batch.lintWarnings.length = raws.countP fun raw =>
      decide (Significant raw) && (firstWarning? linter ctx (trimmed raw)).isSome := by
  have each : ∀ line, (complaint? linter ctx line).isSome =
      (firstWarning? linter ctx line.text).isSome := fun line => Option.isSome_map
  rw [complaints, List.length_filterMap_eq_countP]
  simp only [each]
  exact countP_numberedLines (fun text => (firstWarning? linter ctx text).isSome) 1 raws

theorem invalidSleep_mem_iff
    (rejected : batch.invalidSleeps = (numberedLines 1 raws).filterMap (rejection? security)) :
    .invalidSleep number text reason ∈ batch.warnings ↔
      ∃ line ∈ numberedLines 1 raws, line.number = number ∧ line.text = text ∧
        badSleep? security line = some reason := by
  apply report_mem_iff (fun _ _ _ => rfl) _ rejected
  intro number text reason number' text' reason' same
  cases same
  exact ⟨rfl, rfl, rfl⟩

theorem significant_of_start {c : Char} (start : (trimmed raw).toList.head? = some c)
    (no_comment : c ≠ '#') : Significant raw := by
  constructor
  · intro empty
    rw [empty] at start
    cases start
  · rw [start]
    intro comment
    exact no_comment (Option.some.inj comment)

theorem badSleep?_starts {line : Line} (found : badSleep? security line = some reason) :
    StartsWithSleep line.text := by
  have rule := means_meaning security line.text
  unfold badSleep? at found
  split at found
  · rename_i means
    rw [means] at rule
    cases rule with
    | badSleep sleeps => exact sleeps
  · cases found

theorem sleepWarning?_eq (security : Security) (line : Line) (sleeps : StartsWithSleep line.text) :
    Lint.sleepWarning? line.text = (badSleep? security line).map SleepError.message := by
  unfold Lint.sleepWarning? badSleep? meaning
  rw [if_pos (isSleepDirective_iff.mpr sleeps)]
  cases sleepSeconds line.text <;> rfl

/-- Where invalid pauses are looked for, in any order with other checks and with time enough, a
`!sleep` line has a lint warning if and only if the parser rejects it. Both warnings show the same
text and say the same, and no other line is rejected. -/
theorem sleep_lint_foretells_rejection (config : Config) (known : List String) (content : String)
    (clock : Clock) (enabled : config.linter.enabled = true)
    (checked : config.linter.rules.warnInvalidSyntax = true)
    (ordered : .metaSyntax ∈ config.linter.execution.lintOrder)
    (in_time : clock.Settled False (lintTime config)) :
    ∃ batch, parse config known content clock = some batch ∧
      (∀ index raw, (contentLines content)[index]? = some raw → StartsWithSleep (trimmed raw) →
        ((∃ text message, .lint (index + 1) text message ∈ batch.warnings) ↔
          ∃ text reason, .invalidSleep (index + 1) text reason ∈ batch.warnings) ∧
        ∀ text text' message reason, .lint (index + 1) text message ∈ batch.warnings →
          .invalidSleep (index + 1) text' reason ∈ batch.warnings →
            text = text' ∧ message = reason.message) ∧
      ∀ number text reason, .invalidSleep number text reason ∈ batch.warnings →
        ∃ index raw, number = index + 1 ∧ (contentLines content)[index]? = some raw ∧
          StartsWithSleep (trimmed raw) := by
  obtain ⟨batch, read, complaints⟩ := parse_in_time config known content in_time
  have rejected : batch.invalidSleeps =
      (numberedLines 1 (contentLines content)).filterMap (rejection? config.security) :=
    congrArg Account.rejected (account_parse read)
  refine ⟨batch, read, ?_, ?_⟩
  · intro index raw here sleeps
    have significant : Significant raw := significant_of_start (starts_of_sleep sleeps) (by decide)
    have lints : ∀ text message, .lint (index + 1) text message ∈ batch.warnings ↔
        trimmed raw = text ∧
          ((badSleep? config.security ⟨index + 1, trimmed raw⟩).map SleepError.message) =
            some message := by
      intro text message
      rw [lint_mem_iff complaints, exists_line_iff here,
        Lint.firstWarning?_sleep enabled checked ordered sleeps,
        ← sleepWarning?_eq config.security ⟨index + 1, trimmed raw⟩ sleeps]
      exact and_iff_right significant
    have rejects : ∀ text reason, .invalidSleep (index + 1) text reason ∈ batch.warnings ↔
        trimmed raw = text ∧ badSleep? config.security ⟨index + 1, trimmed raw⟩ = some reason := by
      intro text reason
      rw [invalidSleep_mem_iff rejected, exists_line_iff here]
      exact and_iff_right significant
    simp only [lints, rejects]
    constructor
    · constructor
      · rintro ⟨text, message, same, words⟩
        obtain ⟨reason, found, _⟩ := Option.map_eq_some_iff.mp words
        exact ⟨text, reason, same, found⟩
      · rintro ⟨text, reason, same, found⟩
        refine ⟨text, reason.message, same, ?_⟩
        rw [found, Option.map_some]
    · rintro text text' message reason ⟨same, words⟩ ⟨same', found⟩
      rw [found] at words
      exact ⟨same.symm.trans same', (Option.some.inj words).symm⟩
  · intro number text reason member
    obtain ⟨line, listed, same, _, found⟩ := (invalidSleep_mem_iff rejected).mp member
    obtain ⟨index, raw, here, _, rfl⟩ := mem_numberedLines.mp listed
    have sleeps := badSleep?_starts found
    exact ⟨index, raw, same.symm, here, sleeps⟩

theorem settled_still (config : Config) (time : Nat) (budget : 0 < lintTime config) :
    (Clock.still time).Settled False (lintTime config) := by
  intro later
  have ahead : ¬ time + lintTime config ≤ time := by omega
  exact iff_of_false ahead not_false

theorem sleep_lint_foretells_rejection_mixed :
    ∃ batch, parse {} ["say"] mixed (.still 0) = some batch ∧
      (contentLines mixed)[4]? = some "!sleep soon" ∧
      .invalidSleep 5 "!sleep soon" (.notANumber "soon") ∈ batch.warnings ∧
      ∃ text message, .lint 5 text message ∈ batch.warnings := by
  have rejects : (parse {} ["say"] mixed (.still 0)).map (fun batch =>
      decide (.invalidSleep 5 "!sleep soon" (.notANumber "soon") ∈ batch.warnings)) =
        some true := by
    decide +kernel
  have here : (contentLines mixed)[4]? = some "!sleep soon" := by decide +kernel
  have sleeps : StartsWithSleep (trimmed "!sleep soon") :=
    isSleepDirective_iff.mp (by decide +kernel)
  obtain ⟨batch, read, rejected⟩ := Option.map_eq_some_iff.mp rejects
  obtain ⟨batch', read', lines, _⟩ := sleep_lint_foretells_rejection {} ["say"] mixed (.still 0)
    rfl rfl (by decide) (settled_still {} 0 (by decide))
  obtain rfl := Option.some.inj (read.symm.trans read')
  have member := of_decide_eq_true rejected
  exact ⟨batch, read, here, member, (lines 4 _ here sleeps).1.mpr ⟨_, _, member⟩⟩

def Dropped (security : Security) (raw : String) : Prop :=
  Significant raw ∧ meaning security (trimmed raw) = .dropped

def IsDirective (raw : String) : Prop :=
  (trimmed raw).toList.head? = some '!'

instance (security : Security) (raw : String) : Decidable (Dropped security raw) :=
  inferInstanceAs (Decidable (_ ∧ _))

instance (raw : String) : Decidable (IsDirective raw) :=
  inferInstanceAs (Decidable (_ = _))

theorem dropped_iff (plain : ¬ IsDirective raw) :
    Dropped security raw ↔ Significant raw ∧ Drops security (trimmed raw) := by
  have awake : isSleepDirective (trimmed raw) = false := by
    rw [← Bool.not_eq_true, isSleepDirective_iff]
    intro sleeps
    exact plain (starts_of_sleep sleeps)
  unfold Dropped meaning
  rw [← isDropped_iff, awake]
  cases isDropped security (trimmed raw) <;> simp

theorem firstWarning?_isSome_iff (enabled : linter.enabled = true)
    (checked : linter.rules.warnOnBlacklisted = true)
    (alone : ∀ check, check ∈ ctx.order ↔ check = .blacklist)
    (removes : security.removeDangerousCommands = true)
    (same : ctx.blacklist = security.commandBlacklist) :
    Significant raw ∧ (firstWarning? linter ctx (trimmed raw)).isSome = true ↔
      Dropped security raw ∧ ¬ IsDirective raw := by
  rw [Lint.firstWarning?_blacklist enabled checked alone]
  by_cases plain : IsDirective raw
  · have silent : lineKind? (trimmed raw) ≠ some .command := fun command =>
      (Lint.lineKind?_command.mp command).2.2 plain
    simp [plain, silent]
  · rw [dropped_iff plain, and_iff_left plain]
    apply and_congr_right
    rintro ⟨nonempty, no_comment⟩
    have command : lineKind? (trimmed raw) = some .command :=
      Lint.lineKind?_command.mpr ⟨nonempty, no_comment, plain⟩
    rw [if_pos command]
    unfold Lint.blacklistWarning? Drops
    rw [same]
    cases isDangerous (trimmed raw) security.commandBlacklist <;> simp [removes]

/-- A name that starts with `!` is on no blacklist without such an entry. -/
theorem not_isDirective_of_dropped (dropped : Dropped security raw)
    (plain : ∀ entry ∈ security.commandBlacklist, entry.toList.head? ≠ some '!') :
    ¬ IsDirective raw := by
  intro bang
  have drops : Drops security (trimmed raw) := by
    have rule := means_meaning security (trimmed raw)
    rw [dropped.2] at rule
    cases rule with
    | dropped _ drops => exact drops
  have listed : isBlacklisted (commandName (trimmed raw)) security.commandBlacklist = true :=
    drops.2
  simp only [isBlacklisted, toList_commandName, Bool.and_eq_true, List.contains_iff_mem,
    List.mem_map] at listed
  obtain ⟨_, entry, member, same⟩ := listed
  have bare : Bare (trimmed raw).toList := by
    rw [toList_trimmed]
    exact bare_trim raw.toList
  have name := head?_commandChars_bang bare bang
  apply plain entry member
  rw [← Text.head?_lowerEach_bang, same, Text.head?_lowerEach_bang]
  exact name

theorem skipped_eq_countP (lines : List String) :
    (accountOf security (numberedLines 1 lines)).skipped =
      lines.countP fun raw => Dropped security raw := by
  have about_text : isSkipped security =
      fun line => decide (meaning security line.text = .dropped) := by
    funext line
    unfold isSkipped
    cases meaning security line.text <;> rfl
  unfold accountOf
  rw [about_text, countP_numberedLines (fun text => decide (meaning security text = .dropped))]
  apply List.countP_congr
  intro raw _
  simp only [Bool.and_eq_true, decide_eq_true_iff]
  rfl

/-- With the blacklist check alone and time enough, the lines that get a lint warning are the
commands that the parser drops, except for those that start with `!`: these it drops in silence, and
only if an entry of the blacklist starts so. -/
theorem blacklist_lint_foretells_drops (config : Config) (known : List String) (content : String)
    (clock : Clock) (enabled : config.linter.enabled = true)
    (checked : config.linter.rules.warnOnBlacklisted = true)
    (removes : config.security.removeDangerousCommands = true)
    (alone : ∀ check, check ∈ config.linter.execution.lintOrder ↔ check = .blacklist)
    (in_time : clock.Settled False (lintTime config)) :
    ∃ batch, parse config known content clock = some batch ∧
      (∀ number, (∃ text message, .lint number text message ∈ batch.warnings) ↔
        ∃ index raw, number = index + 1 ∧ (contentLines content)[index]? = some raw ∧
          Dropped config.security raw ∧ ¬ IsDirective raw) ∧
      batch.skipped = (contentLines content).countP (fun raw => Dropped config.security raw) ∧
      batch.lintWarnings.length = (contentLines content).countP (fun raw =>
        Dropped config.security raw ∧ ¬ IsDirective raw) ∧
      ((∀ entry ∈ config.security.commandBlacklist, entry.toList.head? ≠ some '!') →
        (∀ raw, Dropped config.security raw → ¬ IsDirective raw) ∧
          batch.skipped = batch.lintWarnings.length) := by
  obtain ⟨batch, read, complaints⟩ := parse_in_time config known content in_time
  have speaks : ∀ raw, Significant raw ∧ (firstWarning? config.linter
      (lintContext config known clock.now) (trimmed raw)).isSome = true ↔
        Dropped config.security raw ∧ ¬ IsDirective raw := fun raw =>
    firstWarning?_isSome_iff enabled checked alone removes rfl
  have skipped : batch.skipped =
      (contentLines content).countP (fun raw => Dropped config.security raw) := by
    have counted := congrArg Account.skipped (account_parse read)
    exact counted.trans (skipped_eq_countP (contentLines content))
  have warned : batch.lintWarnings.length = (contentLines content).countP (fun raw =>
      Dropped config.security raw ∧ ¬ IsDirective raw) := by
    rw [length_lintWarnings complaints]
    apply List.countP_congr
    intro raw _
    simp only [Bool.and_eq_true, decide_eq_true_iff]
    exact speaks raw
  refine ⟨batch, read, ?_, skipped, warned, ?_⟩
  · intro number
    rw [lint_number_iff complaints]
    simp only [speaks]
  · intro plain
    have all_plain : ∀ raw, Dropped config.security raw → ¬ IsDirective raw := fun _ dropped =>
      not_isDirective_of_dropped dropped plain
    refine ⟨all_plain, ?_⟩
    rw [skipped, warned]
    apply List.countP_congr
    intro raw _
    simp only [decide_eq_true_iff]
    constructor
    · intro dropped
      exact ⟨dropped, all_plain raw dropped⟩
    · rintro ⟨dropped, _⟩
      exact dropped

def blacklistOnly (blacklist : List String) : Config where
  security.commandBlacklist := blacklist
  linter.execution.lintOrder := [.blacklist]

theorem blacklist_lint_foretells_drops_mixed :
    ∃ batch, parse (blacklistOnly ["Stop"]) [] mixed (.still 0) = some batch ∧
      (contentLines mixed)[5]? = some "/Stop now" ∧ Dropped ⟨true, ["Stop"]⟩ "/Stop now" ∧
      (∃ text message, .lint 6 text message ∈ batch.warnings) ∧
      batch.skipped = batch.lintWarnings.length := by
  have here : (contentLines mixed)[5]? = some "/Stop now" := by decide +kernel
  have dropped : Dropped ⟨true, ["Stop"]⟩ "/Stop now" ∧ ¬ IsDirective "/Stop now" := by
    decide +kernel
  obtain ⟨batch, read, lints, _, _, agree⟩ := blacklist_lint_foretells_drops
    (blacklistOnly ["Stop"]) [] mixed (.still 0) rfl rfl rfl (by simp [blacklistOnly])
    (settled_still _ 0 (by decide))
  have warned := (lints 6).mpr ⟨5, _, rfl, here, dropped⟩
  exact ⟨batch, read, here, dropped.1, warned, (agree (by decide)).2⟩

/-- A line that the parser drops and no lint warning tells of, though the blacklist check is the
only one and has all the time it needs. -/
theorem directive_dropped_in_silence :
    (Clock.still 0).Settled False (lintTime (blacklistOnly ["!stop"])) ∧
      ∃ batch, parse (blacklistOnly ["!stop"]) [] "!stop" (.still 0) = some batch ∧
        contentLines "!stop" = ["!stop"] ∧ Dropped ⟨true, ["!stop"]⟩ "!stop" ∧
        batch.actions = [] ∧ batch.skipped = 1 ∧ batch.lintWarnings = [] := by
  have found : (parse (blacklistOnly ["!stop"]) [] "!stop" (.still 0)).map (fun batch =>
      (batch.actions, batch.skipped, batch.lintWarnings)) = some ([], 1, []) := by
    decide +kernel
  obtain ⟨batch, read, same⟩ := Option.map_eq_some_iff.mp found
  obtain ⟨actions, counts⟩ := Prod.mk.inj same
  obtain ⟨skipped, silent⟩ := Prod.mk.inj counts
  exact ⟨settled_still _ 0 (by decide), batch, read, by decide +kernel, by decide +kernel, actions,
    skipped, silent⟩

end Batch

end ConsoleBatch
