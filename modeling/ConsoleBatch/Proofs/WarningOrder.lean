import ConsoleBatch.Proofs.Timeout

/-! The list of the warnings about a file.

Each significant line adds what linting says about it, and behind that why it is no pause, if it
should be one. So the list is in the order of the lines; only that nothing is left to do stands
behind all of them. -/

namespace ConsoleBatch

namespace Lint

theorem Timings.eq_empty {timings : Timings} (idle : ∀ check, timings.get? check = none) :
    timings = .empty := by
  apply Timings.ext_get?
  intro check
  rw [idle, get?_empty]

theorem Linting.of_unchecked {linter : LinterConfig} {ctx : Context} {line : String}
    {clock after : Clock} {runs : List CheckRun} {ending : Ending}
    (unchecked : linter.enabled = false ∨ ctx.order = [])
    (course : Linting linter ctx line clock runs ending after) :
    runs = [] ∧ ending = .linted none := by
  cases course with
  | idle => exact ⟨rfl, rfl⟩
  | checked enabled _ course =>
    rcases unchecked with off | unordered
    · rw [enabled] at off
      cases off
    · rw [unordered] at course
      cases course
      exact ⟨rfl, rfl⟩

end Lint

namespace Batch

open Lint (Clock Context)
open Text

def Warning.line? : Warning → Option Line
  | lint number text _ => some ⟨number, text⟩
  | invalidSleep number text _ => some ⟨number, text⟩
  | emptyFile => none

/-- What there is to say about a line: a lint warning or none, and then a rejected pause or none. -/
def remarks (line : Line) (lint : Option String) (reason : Option SleepError) : List Warning :=
  (lint.map (.lint line.number line.text)).toList ++
    (reason.map (.invalidSleep line.number line.text)).toList

structure WellReported (config : Config) (content : String) (batch : Parsed) : Prop where
  ascending : (batch.warnings.filterMap Warning.lineNumber?).Pairwise (· ≤ ·)
  once_each : ∀ number, ∃ text lint reason,
    batch.warnings.filter (fun warning => warning.lineNumber? = some number) =
      remarks ⟨number, text⟩ lint reason
  about_lines : ∀ warning ∈ batch.warnings, ∀ line, warning.line? = some line →
    ∃ index raw, (contentLines content)[index]? = some raw ∧ Significant raw ∧
      line = ⟨index + 1, trimmed raw⟩
  empty_iff : .emptyFile ∈ batch.warnings ↔
    batch.actions = [] ∧ config.linter.rules.warnEmptyFile = true
  empty_last : .emptyFile ∈ batch.warnings →
    ∃ others, batch.warnings = others ++ [.emptyFile] ∧ .emptyFile ∉ others
  unchecked : config.linter.enabled = false ∨ config.linter.execution.lintOrder = [] →
    batch.lintWarnings = [] ∧ batch.lintTimedOut = false ∧ batch.timings = .empty

def reported (security : Security) (entries : List (Line × Option String)) : List Warning :=
  entries.flatMap fun entry => lineWarnings security entry.1 entry.2

variable {security : Security} {entries : List (Line × Option String)} {warning : Warning}

theorem reported_cons (security : Security) (entry : Line × Option String)
    (entries : List (Line × Option String)) :
    reported security (entry :: entries) =
      remarks entry.1 entry.2 (badSleep? security entry.1) ++ reported security entries :=
  List.flatMap_cons

theorem line?_of_mem_remarks {line : Line} {lint : Option String} {reason : Option SleepError}
    (member : warning ∈ remarks line lint reason) : warning.line? = some line := by
  rcases List.mem_append.mp member with linted | rejected
  · obtain ⟨_, _, rfl⟩ := Option.map_eq_some_iff.mp (Option.mem_toList.mp linted)
    rfl
  · obtain ⟨_, _, rfl⟩ := Option.map_eq_some_iff.mp (Option.mem_toList.mp rejected)
    rfl

theorem line?_of_mem_reported (member : warning ∈ reported security entries) :
    ∃ entry ∈ entries, warning.line? = some entry.1 := by
  obtain ⟨entry, listed, here⟩ := List.mem_flatMap.mp member
  exact ⟨entry, listed, line?_of_mem_remarks here⟩

theorem lineNumber?_of_line? {line : Line} (about : warning.line? = some line) :
    warning.lineNumber? = some line.number := by
  cases warning <;> cases about <;> rfl

theorem emptyFile_not_mem_reported : .emptyFile ∉ reported security entries := by
  intro member
  obtain ⟨_, _, about⟩ := line?_of_mem_reported member
  cases about

section

variable (ascending : entries.Pairwise fun first second => first.1.number < second.1.number)
include ascending

theorem numbers_ascend :
    ((reported security entries).filterMap Warning.lineNumber?).Pairwise (· ≤ ·) := by
  have number_eq : ∀ {entry warning number},
      warning ∈ lineWarnings security (Prod.fst entry) (Prod.snd entry) →
        warning.lineNumber? = some number → number = entry.1.number := by
    intro entry warning number member here
    have there := lineNumber?_of_line? (line?_of_mem_remarks member)
    exact Option.some.inj (here.symm.trans there)
  rw [List.pairwise_filterMap]
  apply List.pairwise_flatMap.mpr
  constructor
  · intro entry _
    apply List.pairwise_of_forall_mem_list
    intro first member second member' one here two there
    exact Nat.le_of_eq ((number_eq member here).trans (number_eq member' there).symm)
  · apply ascending.imp
    intro entry entry' before first member second member' one here two there
    rw [number_eq member here, number_eq member' there]
    exact Nat.le_of_lt before

/-- Of the warnings about ascending lines, those with one number are the remarks about one line. -/
theorem exists_remarks (number : Nat) :
    ∃ text lint reason,
      (reported security entries).filter (fun warning => warning.lineNumber? = some number) =
        remarks ⟨number, text⟩ lint reason := by
  induction entries with
  | nil => exact ⟨"", none, none, rfl⟩
  | cons entry entries ih =>
    obtain ⟨ahead, onward⟩ := List.pairwise_cons.mp ascending
    have own : ∀ warning ∈ remarks entry.1 entry.2 (badSleep? security entry.1),
        warning.lineNumber? = some entry.1.number := fun warning member =>
      lineNumber?_of_line? (line?_of_mem_remarks member)
    rw [reported_cons, List.filter_append]
    by_cases same : entry.1.number = number
    · have kept : (remarks entry.1 entry.2 (badSleep? security entry.1)).filter
          (fun warning => warning.lineNumber? = some number) =
            remarks entry.1 entry.2 (badSleep? security entry.1) :=
        List.filter_eq_self.mpr fun warning member =>
          decide_eq_true ((own warning member).trans (congrArg some same))
      have left_out : (reported security entries).filter
          (fun warning => warning.lineNumber? = some number) = [] := by
        apply List.filter_eq_nil_iff.mpr
        intro warning member here
        obtain ⟨other, listed, about⟩ := line?_of_mem_reported member
        have there := (lineNumber?_of_line? about).symm.trans (of_decide_eq_true here)
        have before := ahead other listed
        rw [same, Option.some.inj there] at before
        exact Nat.lt_irrefl _ before
      refine ⟨entry.1.text, entry.2, badSleep? security entry.1, ?_⟩
      rw [kept, left_out, List.append_nil, ← same]
    · have left_out : (remarks entry.1 entry.2 (badSleep? security entry.1)).filter
          (fun warning => warning.lineNumber? = some number) = [] := by
        apply List.filter_eq_nil_iff.mpr
        intro warning member here
        have there := (own warning member).symm.trans (of_decide_eq_true here)
        exact same (Option.some.inj there)
      rw [left_out]
      exact ih onward

end

theorem Keeps.of_unchecked {linter : LinterConfig} {ctx : Context} {clock : Clock}
    {lines : List Line} {journal : Journal} (unchecked : linter.enabled = false ∨ ctx.order = [])
    (keeps : Keeps linter ctx clock lines journal) :
    journal.complaints = [] ∧ journal.lintedRuns = [] ∧ journal.struck = none := by
  induction keeps with
  | done => exact ⟨rfl, rfl, rfl⟩
  | linted here _ ih =>
    obtain ⟨rfl, ends⟩ := here.of_unchecked unchecked
    cases ends
    exact ih
  | struck here =>
    obtain ⟨_, ends⟩ := here.of_unchecked unchecked
    cases ends

variable {config : Config} {known : List String} {content : String} {clock : Clock}
  {batch : Parsed}

def endRemarks (config : Config) (batch : Parsed) : List Warning :=
  if batch.actions = [] ∧ config.linter.rules.warnEmptyFile = true then [.emptyFile] else []

theorem mem_endRemarks {warning : Warning} :
    warning ∈ endRemarks config batch ↔
      warning = .emptyFile ∧ batch.actions = [] ∧ config.linter.rules.warnEmptyFile = true := by
  unfold endRemarks
  split
  · rename_i nothing_left
    simp [nothing_left]
  · rename_i something
    simp [something]

theorem warnings_eq (read : parse config known content clock = some batch) :
    ∃ entries : List (Line × Option String),
      entries.map Prod.fst = numberedLines 1 (contentLines content) ∧
      batch.warnings = reported config.security entries ++ endRemarks config batch := by
  obtain ⟨pass, size, rfl⟩ := parse_some read
  refine ⟨(numberedLines 1 (contentLines content)).zip pass.warnings, ?_, ?_⟩
  · exact List.map_fst_zip (Nat.le_of_eq size.symm)
  · rw [reported, List.flatMap_def, List.zip_eq_zipWith, List.map_zipWith]
    simp [assemble, endRemarks]

theorem unchecked_batch (unchecked : config.linter.enabled = false ∨
    config.linter.execution.lintOrder = [])
    (read : parse config known content clock = some batch) :
    batch.lintWarnings = [] ∧ batch.lintTimedOut = false ∧ batch.timings = .empty := by
  obtain ⟨journal, kept⟩ := exists_journal config known content clock
  obtain ⟨silent, idle, finished⟩ := Keeps.of_unchecked unchecked kept
  have told := describes_of_parse kept read
  refine ⟨told.complaints.trans silent, ?_, Lint.Timings.eq_empty fun check => ?_⟩
  · rw [told.timedOut, finished]
    rfl
  · rw [told.times, idle]
    rfl

/-- The warnings about a file are in the order of its lines, of each line at most one of each kind
and what linting says in front. Each tells the number and the text of its line. That nothing is left
to do is said once and last. -/
theorem warnings_well_reported (config : Config) (known : List String) (content : String)
    (clock : Clock) (batch : Parsed) (read : parse config known content clock = some batch) :
    WellReported config content batch := by
  obtain ⟨entries, lines, warnings⟩ := warnings_eq read
  have ascending : entries.Pairwise fun first second => first.1.number < second.1.number := by
    have sorted := ascending_numberedLines 1 (contentLines content)
    rwa [← lines, List.pairwise_map] at sorted
  have unnumbered : ∀ warning ∈ endRemarks config batch, warning.lineNumber? = none := by
    intro warning member
    rw [(mem_endRemarks.mp member).1]
    rfl
  have nothing_left : .emptyFile ∈ batch.warnings ↔
      batch.actions = [] ∧ config.linter.rules.warnEmptyFile = true := by
    rw [warnings, List.mem_append, or_iff_right emptyFile_not_mem_reported, mem_endRemarks]
    exact and_iff_right rfl
  refine ⟨?_, ?_, ?_, nothing_left, ?_, fun unchecked => unchecked_batch unchecked read⟩
  · rw [warnings, List.filterMap_append, List.filterMap_eq_nil_iff.mpr unnumbered, List.append_nil]
    exact numbers_ascend ascending
  · intro number
    have left_out : (endRemarks config batch).filter
        (fun warning => warning.lineNumber? = some number) = [] := by
      apply List.filter_eq_nil_iff.mpr
      intro warning member
      simp [unnumbered warning member]
    rw [warnings, List.filter_append, left_out, List.append_nil]
    exact exists_remarks ascending number
  · intro warning member line about
    rw [warnings] at member
    rcases List.mem_append.mp member with here | last
    · obtain ⟨entry, listed, same⟩ := line?_of_mem_reported here
      obtain rfl := Option.some.inj (about.symm.trans same)
      apply mem_numberedLines.mp
      rw [← lines]
      exact List.mem_map_of_mem listed
    · obtain ⟨rfl, _⟩ := mem_endRemarks.mp last
      cases about
  · intro member
    refine ⟨reported config.security entries, ?_, emptyFile_not_mem_reported⟩
    rw [warnings, endRemarks, if_pos (nothing_left.mp member)]

def onlyWarnings : String :=
  "# note\r\n !sleep soon \n\n/Stop now"

theorem warnings_well_reported_onlyWarnings :
    ∃ batch, parse {} [] onlyWarnings (.still 0) = some batch ∧
      batch.warnings =
        [.lint 2 "!sleep soon" "Invalid duration for !sleep: 'soon'. Expected a number.",
          .invalidSleep 2 "!sleep soon" (.notANumber "soon"),
          .lint 4 "/Stop now" "Command 'stop' is blacklisted.", .emptyFile] ∧
      WellReported {} onlyWarnings batch := by
  have shown : (parse {} [] onlyWarnings (.still 0)).map Parsed.warnings =
      some [.lint 2 "!sleep soon" "Invalid duration for !sleep: 'soon'. Expected a number.",
        .invalidSleep 2 "!sleep soon" (.notANumber "soon"),
        .lint 4 "/Stop now" "Command 'stop' is blacklisted.", .emptyFile] := by
    decide +kernel
  obtain ⟨batch, read, warnings⟩ := Option.map_eq_some_iff.mp shown
  exact ⟨batch, read, warnings, warnings_well_reported {} [] onlyWarnings (.still 0) batch read⟩

end Batch

end ConsoleBatch
