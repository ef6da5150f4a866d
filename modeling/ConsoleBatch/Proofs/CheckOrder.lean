import ConsoleBatch.Batch.Notice
import ConsoleBatch.Proofs.Agreement
import ConsoleBatch.Proofs.LineChecks
import Mathlib.Data.List.Basic

/-! What the order of the checks is for.

Every check is about the lines of one kind. Only commands have two checks, the blacklist and the
existence check, and so only the order of these two can decide which of them is heard. -/

namespace ConsoleBatch

def Config.ordering (config : Config) (order : List Lint.Check) : Config :=
  { config with linter.execution.lintOrder := order }

namespace Lint

open Text

def Check.kind : Check → LineKind
  | metaSyntax => .sleep
  | unknownMeta => .directive
  | blacklist | existence => .command

theorem kind_of_warning {rules : LintRules} {ctx : Context} {kind : LineKind} {line : String}
    {check : Check} (warns : (warning? rules ctx kind line check).isSome = true) :
    check.kind = kind := by
  cases check <;>
  · rw [warning?] at warns
    split at warns
    · rename_i same
      exact same.symm
    · cases warns

/-- Two checks of one kind are the same check, or the two about commands. -/
theorem checks_of_kind {check other : Check} (same : check.kind = other.kind) :
    check = other ∨ check = .blacklist ∧ other = .existence ∨
      check = .existence ∧ other = .blacklist := by
  cases check <;> cases other <;> simp_all [Check.kind]

section

variable {order order' : List Check} {said : Check → Option String} {warning : String}

theorem findSome?_filter (chosen : Check → Bool) (said : Check → Option String)
    (order : List Check) :
    (order.filter chosen).findSome? said =
      order.findSome? fun check => if chosen check then said check else none := by
  rw [← List.head?_filterMap, List.filterMap_filter, List.head?_filterMap]

/-- Among the checks that have something to say, the one that stands first is heard. -/
theorem findSome?_eq_some_iff_idxOf :
    order.findSome? said = some warning ↔
      ∃ check ∈ order, said check = some warning ∧
        ∀ other ∈ order, (said other).isSome = true → order.idxOf check ≤ order.idxOf other := by
  have first : ∀ {warning}, order.findSome? said = some warning →
      ∃ check ∈ order, said check = some warning ∧
        ∀ other ∈ order, (said other).isSome = true → order.idxOf check ≤ order.idxOf other := by
    intro warning heard
    obtain ⟨front, check, rest, rfl, found, silent⟩ := List.findSome?_eq_some_iff.mp heard
    have behind : ∀ other, (said other).isSome = true → other ∉ front := by
      intro other speaks member
      rw [silent other member] at speaks
      cases speaks
    refine ⟨check, by simp, found, ?_⟩
    intro other _ speaks
    have here : check ∉ front := behind check (found ▸ rfl)
    rw [List.idxOf_append_of_notMem here, List.idxOf_append_of_notMem (behind other speaks),
      List.idxOf_cons_self]
    exact Nat.le_add_right _ _
  refine ⟨first, ?_⟩
  rintro ⟨check, listed, found, ahead⟩
  have some_word : (order.findSome? said).isSome = true :=
    List.findSome?_isSome_iff.mpr ⟨check, listed, found ▸ rfl⟩
  obtain ⟨word, heard⟩ := Option.isSome_iff_exists.mp some_word
  obtain ⟨other, listed', found', ahead'⟩ := first heard
  have same_place : order.idxOf check = order.idxOf other :=
    Nat.le_antisymm (ahead other listed' (found' ▸ rfl)) (ahead' check listed (found ▸ rfl))
  obtain rfl := (List.idxOf_inj listed).mp same_place
  rw [heard, ← found', found]

theorem findSome?_of_ranking (listed : ∀ check, (said check).isSome = true →
      (check ∈ order ↔ check ∈ order'))
    (ranked : ∀ check other, (said check).isSome = true → (said other).isSome = true →
      check ∈ order → other ∈ order → order.idxOf check ≤ order.idxOf other →
        order'.idxOf check ≤ order'.idxOf other)
    (heard : order.findSome? said = some warning) : order'.findSome? said = some warning := by
  obtain ⟨check, member, found, ahead⟩ := findSome?_eq_some_iff_idxOf.mp heard
  have speaks : (said check).isSome = true := found ▸ rfl
  refine findSome?_eq_some_iff_idxOf.mpr ⟨check, (listed check speaks).mp member, found, ?_⟩
  intro other member' speaks'
  have also_listed := (listed other speaks').mpr member'
  exact ranked check other speaks speaks' member also_listed (ahead other also_listed speaks')

theorem idxOf_filter (chosen : Check → Bool) {check other : Check} (listed : check ∈ order)
    (picked : chosen check = true) (picked' : chosen other = true) :
    (order.filter chosen).idxOf check < (order.filter chosen).idxOf other ↔
      order.idxOf check < order.idxOf other := by
  induction order with
  | nil => cases listed
  | cons first rest ih =>
    by_cases here : check = first
    · subst here
      rw [List.filter_cons_of_pos picked]
      by_cases same : check = other
      · simp [same]
      · simp [List.idxOf_cons_ne _ same]
    · have later : check ∈ rest := (List.mem_cons.mp listed).resolve_left here
      have passed : first ≠ check := fun same => here same.symm
      by_cases front : other = first
      · subst front
        rw [List.filter_cons_of_pos picked']
        simp
      · have passed' : first ≠ other := fun same => front same.symm
        rw [List.idxOf_cons_ne _ passed, List.idxOf_cons_ne _ passed', Nat.succ_lt_succ_iff,
          ← ih later, List.filter_cons]
        split
        · rw [List.idxOf_cons_ne _ passed, List.idxOf_cons_ne _ passed', Nat.succ_lt_succ_iff]
        · rfl

end

/-- The same checks are enabled and listed in both orders, and if the blacklist and the existence
check are among them, both have the same one of the two first. -/
structure SameRanking (rules : LintRules) (order order' : List Check) : Prop where
  listed : ∀ check, rules.enables check = true → (check ∈ order ↔ check ∈ order')
  first : rules.enables .blacklist = true → rules.enables .existence = true →
    .blacklist ∈ order → .existence ∈ order →
      (order.idxOf .blacklist < order.idxOf .existence ↔
        order'.idxOf .blacklist < order'.idxOf .existence)

namespace SameRanking

variable {rules : LintRules} {order order' : List Check}

theorem symm (same : SameRanking rules order order') : SameRanking rules order' order where
  listed check enabled := (same.listed check enabled).symm
  first on on' listed listed' :=
    (same.first on on' ((same.listed _ on).mpr listed) ((same.listed _ on').mpr listed')).symm

theorem ranked (same : SameRanking rules order order') {check other : Check}
    (enabled : rules.enables check = true) (enabled' : rules.enables other = true)
    (kinds : check.kind = other.kind) (listed : check ∈ order) (listed' : other ∈ order)
    (ahead : order.idxOf check ≤ order.idxOf other) :
    order'.idxOf check ≤ order'.idxOf other := by
  rcases checks_of_kind kinds with rfl | ⟨rfl, rfl⟩ | ⟨rfl, rfl⟩
  · exact Nat.le_refl _
  · have apart : order.idxOf Check.blacklist ≠ order.idxOf Check.existence := by
      rw [Ne, List.idxOf_inj listed]
      decide
    exact Nat.le_of_lt ((same.first enabled enabled' listed listed').mp
      (Nat.lt_of_le_of_ne ahead apart))
  · have first := same.first enabled' enabled listed' listed
    exact Nat.le_of_not_lt fun before => Nat.not_lt.mpr ahead (first.mpr before)

theorem warning_kept (same : SameRanking rules order order') {ctx : Context} {kind : LineKind}
    {line warning : String}
    (heard : (order.filter rules.enables).findSome? (warning? rules ctx kind line) = some warning) :
    (order'.filter rules.enables).findSome? (warning? rules ctx kind line) = some warning := by
  rw [findSome?_filter] at heard ⊢
  have on : ∀ check, (if rules.enables check = true then warning? rules ctx kind line check
      else none).isSome = true →
        rules.enables check = true ∧ check.kind = kind := by
    intro check speaks
    split at speaks
    · rename_i enabled
      exact ⟨enabled, kind_of_warning speaks⟩
    · cases speaks
  refine findSome?_of_ranking ?_ ?_ heard
  · intro check speaks
    exact same.listed check (on check speaks).1
  · intro check other speaks speaks'
    obtain ⟨enabled, kind⟩ := on check speaks
    obtain ⟨enabled', kind'⟩ := on other speaks'
    exact same.ranked enabled enabled' (kind.trans kind'.symm)

theorem firstWarning?_eq {linter : LinterConfig} (same : SameRanking linter.rules order order')
    (ctx : Context) (due due' : Nat) (line : String) :
    firstWarning? linter { ctx with order := order, due := due } line =
      firstWarning? linter { ctx with order := order', due := due' } line := by
  unfold firstWarning?
  cases lineKind? line with
  | none => rfl
  | some kind =>
    dsimp only
    split
    · rw [warning?_order, warning?_order]
      apply Option.ext
      intro warning
      exact ⟨same.warning_kept, same.symm.warning_kept⟩
    · rfl

/-- Checks that are not about commands can stand anywhere and as often as one likes. -/
theorem of_others (listed : ∀ check, check ∈ order ↔ check ∈ order')
    (same : (order.filter fun check => check.kind = .command) =
      order'.filter fun check => check.kind = .command) : SameRanking rules order order' where
  listed check _ := listed check
  first _ _ member _ := by
    rw [← idxOf_filter (fun check => check.kind = .command) member rfl rfl, same,
      idxOf_filter _ ((listed _).mp member) rfl rfl]

end SameRanking

end Lint

namespace Batch

open Lint (Check Clock Context SameRanking Timings firstWarning?)
open Text

theorem Keeps.warnings_eq {linter : LinterConfig} {ctx : Context} {clock : Clock}
    {lines : List Line} {journal : Journal} (keeps : Keeps linter ctx clock lines journal)
    (finished : journal.struck = none) :
    (lintLines linter ctx clock lines).1.warnings =
      lines.map fun line => firstWarning? linter ctx (trimmed line.text) := by
  induction keeps with
  | done => rfl
  | linted here _ ih =>
    rw [lintLines, here.lintLine_eq, List.map_cons, ← ih finished, ← here.warning_eq]
    rfl
  | struck => cases finished

/-- With time enough, a batch comes of its lines and their first warnings; the clock adds nothing
but the times. -/
theorem parse_settled (config : Config) (known : List String) (content : String) {clock : Clock}
    (settled : clock.Settled False (lintTime config)) :
    ∃ timings, parse config known content clock =
      some (assemble config (numberedLines 1 (contentLines content))
        { warnings := (numberedLines 1 (contentLines content)).map fun line =>
            firstWarning? config.linter (lintContext config known clock.now) (trimmed line.text)
          timings
          timedOut := false }) := by
  obtain ⟨journal, kept⟩ := exists_journal config known content clock
  have finished := kept.finished settled
  have in_time : (lintPass config known content clock).timedOut = false := by
    have flag : (lintPass config known content clock).timedOut = journal.struck.isSome :=
      kept.timedOut_eq
    rw [flag, finished]
    rfl
  have warnings := kept.warnings_eq finished
  refine ⟨(lintPass config known content clock).timings, ?_⟩
  rw [parse_eq, in_time, if_neg (by simp), ← warnings, ← in_time]
  rfl

theorem assemble_ordering (config : Config) (order : List Check) (lines : List Line)
    (pass : LintPass) : assemble (config.ordering order) lines pass = assemble config lines pass :=
  rfl

theorem assemble_times (config : Config) (lines : List Line) (pass : LintPass)
    (timings : Timings) :
    assemble config lines { pass with timings } =
      { assemble config lines pass with timings } := rfl

theorem openingMessages_ordering (config : Config) (order : List Check) (fileName : String)
    (batch : Parsed) (timings : Timings) :
    openingMessages (config.ordering order) fileName { batch with timings } =
      openingMessages config fileName batch := rfl

theorem deferredMessages_ordering {config : Config}
    (quiet : config.linter.execution.debugMode = false) (order : List Check) (fileName : String)
    (batch : Parsed) (timings : Timings) :
    deferredMessages (config.ordering order) fileName { batch with timings } =
      deferredMessages config fileName batch := by
  have silent : ¬ config.linter.execution.debugMode = true := by
    rw [quiet]
    decide
  have silent' : ¬ (config.ordering order).linter.execution.debugMode = true := silent
  -- Without the reports of the times, which differ, both sides are the same.
  unfold deferredMessages
  rw [if_neg silent, if_neg silent']
  rfl

/-- Two orders that list the same enabled checks, and the same one of the blacklist and the existence
check first, come to the same warning on every line that is linted in time. Batches differ in their
times at most, and so the requester is told the same, but for a report of the times. -/
theorem ranking_decides_warnings (config : Config) (known : List String)
    {order order' : List Check} (same : SameRanking config.linter.rules order order') :
    (∀ (blacklist : List String) (line : String) (due due' : Nat) (clock clock' : Clock),
      clock.Early due → clock'.Early due' →
        ∃ finding finding',
          (Lint.lintLine config.linter ⟨known, blacklist, order, due⟩ line clock).1 =
            some finding ∧
          (Lint.lintLine config.linter ⟨known, blacklist, order', due'⟩ line clock').1 =
            some finding' ∧
          finding.warning = finding'.warning) ∧
    ∀ (content : String) (clock clock' : Clock), clock.Settled False (lintTime config) →
      clock'.Settled False (lintTime config) →
        ∃ batch batch', parse (config.ordering order) known content clock = some batch ∧
          parse (config.ordering order') known content clock' = some batch' ∧
          batch' = { batch with timings := batch'.timings } ∧
          ∀ fileName, openingMessages (config.ordering order') fileName batch' =
              openingMessages (config.ordering order) fileName batch ∧
            (config.linter.execution.debugMode = false →
              deferredMessages (config.ordering order') fileName batch' =
                deferredMessages (config.ordering order) fileName batch) := by
  constructor
  · intro blacklist line due due' clock clock' early early'
    obtain ⟨finding, found, warning⟩ := Lint.lintLine_early config.linter
      ⟨known, blacklist, order, due⟩ line early
    obtain ⟨finding', found', warning'⟩ := Lint.lintLine_early config.linter
      ⟨known, blacklist, order', due'⟩ line early'
    refine ⟨finding, finding', found, found', ?_⟩
    rw [warning, warning']
    exact same.firstWarning?_eq ⟨known, blacklist, order, due⟩ due due' (trimmed line)
  · intro content clock clock' settled settled'
    obtain ⟨timings, read⟩ := parse_settled (config.ordering order) known content settled
    obtain ⟨timings', read'⟩ := parse_settled (config.ordering order') known content settled'
    have same_warnings : ∀ line,
        firstWarning? (config.ordering order').linter
            (lintContext (config.ordering order') known clock'.now) line =
          firstWarning? (config.ordering order).linter
            (lintContext (config.ordering order) known clock.now) line := fun line =>
      (same.firstWarning?_eq (lintContext config known clock.now) _ _ line).symm
    simp only [same_warnings, assemble_ordering] at read read'
    generalize firstWarning? (config.ordering order).linter
      (lintContext (config.ordering order) known clock.now) = warning? at read read'
    generalize numberedLines 1 (contentLines content) = lines at read read'
    have retimed := assemble_times config lines
      ⟨lines.map fun line => warning? (trimmed line.text), timings, false⟩ timings'
    generalize assemble config lines
      ⟨lines.map fun line => warning? (trimmed line.text), timings, false⟩ = batch at read retimed
    refine ⟨batch, { batch with timings := timings' }, read, read'.trans (congrArg some retimed),
      rfl, ?_⟩
    intro fileName
    constructor
    · exact (openingMessages_ordering config order' fileName batch timings').trans
        (openingMessages_ordering config order fileName batch batch.timings).symm
    · intro quiet
      exact (deferredMessages_ordering quiet order' fileName batch timings').trans
        (deferredMessages_ordering quiet order fileName batch batch.timings).symm

def shuffled : List Check :=
  [.unknownMeta, .blacklist, .metaSyntax, .existence, .unknownMeta]

theorem ranking_decides_warnings_shuffled :
    SameRanking {} Check.all shuffled ∧
      (∃ finding finding',
        (Lint.lintLine {} ⟨["say"], ["stop"], Check.all, 1⟩ "/Stop now" (.still 0)).1 =
          some finding ∧
        (Lint.lintLine {} ⟨["say"], ["stop"], shuffled, 1⟩ "/Stop now" (.still 0)).1 =
          some finding' ∧
        finding.warning = finding'.warning ∧
        finding.warning = some "Command 'stop' is blacklisted.") ∧
      ∃ batch batch', parse (Config.ordering {} Check.all) ["say"] mixed (.still 0) = some batch ∧
        parse (Config.ordering {} shuffled) ["say"] mixed (.still 0) = some batch' ∧
        batch'.warnings = batch.warnings := by
  have same : SameRanking {} Check.all shuffled :=
    .of_others (fun check => by cases check <;> decide) rfl
  have early : (Clock.still 0).Early 1 := fun _ => Nat.zero_lt_one
  have settled := settled_still {} 0 (by decide)
  have shown : (Lint.lintLine {} ⟨["say"], ["stop"], Check.all, 1⟩ "/Stop now"
      (.still 0)).1.map (·.warning) = some (some "Command 'stop' is blacklisted.") := by
    decide +kernel
  obtain ⟨lines, batches⟩ := ranking_decides_warnings {} ["say"] same
  obtain ⟨finding, finding', found, found', warning⟩ :=
    lines ["stop"] "/Stop now" 1 1 _ _ early early
  obtain ⟨batch, batch', read, read', rest, _⟩ := batches mixed _ _ settled settled
  rw [found] at shown
  refine ⟨same, ⟨finding, finding', found, found', warning, Option.some.inj shown⟩, batch, batch',
    read, read', ?_⟩
  rw [rest]

end Batch

end ConsoleBatch
