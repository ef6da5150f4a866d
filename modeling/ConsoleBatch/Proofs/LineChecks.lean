import ConsoleBatch.Proofs.Journal

/-! Which checks run on a line, and which of them is heard.

The enabled checks of the order run one after the other, and the first that has something to say is
the last one. A line that is linted to its end gets the warning of this check and the times of those
that ran, whatever the clock shows in between. -/

namespace ConsoleBatch.Lint

open Batch (Significant)
open Text

/-- The checks up to the first that has something to say, with that one. -/
def upToFirst (said : Check → Option String) : List Check → List Check
  | [] => []
  | check :: rest => if (said check).isSome then [check] else check :: upToFirst said rest

inductive FirstWord (said : Check → Option String) :
    List Check → Option String → List Check → Prop
  | silence {checks : List Check} (silent : ∀ check ∈ checks, said check = none) :
      FirstWord said checks none checks
  | spoken {front rest : List Check} {check : Check} {warning : String}
      (silent : ∀ other ∈ front, said other = none) (found : said check = some warning) :
      FirstWord said (front ++ check :: rest) (some warning) (front ++ [check])

theorem FirstWord.behind_silence {said : Check → Option String} {checks asked : List Check}
    {warning : Option String} (heard : FirstWord said checks warning asked) {check : Check}
    (silent : said check = none) : FirstWord said (check :: checks) warning (check :: asked) := by
  cases heard with
  | silence others => exact .silence (List.forall_mem_cons.mpr ⟨silent, others⟩)
  | @spoken front _ _ _ others found =>
    have all_silent : ∀ other ∈ check :: front, said other = none :=
      List.forall_mem_cons.mpr ⟨silent, others⟩
    exact .spoken all_silent found

theorem firstWord_upToFirst (said : Check → Option String) (checks : List Check) :
    FirstWord said checks (checks.findSome? said) (upToFirst said checks) := by
  induction checks with
  | nil => exact .silence fun _ member => nomatch member
  | cons check rest ih =>
    rw [List.findSome?_cons, upToFirst]
    cases found : said check with
    | some warning =>
      have nothing_before : ∀ other ∈ [], said other = none := fun _ member => nomatch member
      exact .spoken nothing_before found
    | none => exact ih.behind_silence found

theorem warning?_order (rules : LintRules) (ctx : Context) (order : List Check) (due : Nat)
    (kind : LineKind) (line : String) :
    warning? rules { ctx with order, due } kind line = warning? rules ctx kind line := by
  funext check
  cases check <;> rfl

section

variable {linter : LinterConfig} {rules : LintRules} {ctx : Context} {kind : LineKind}
  {line : String} {clock after : Clock} {checks : List Check} {runs : List CheckRun}
  {ending : Ending}

theorem Checking.checks_eq {warning : Option String}
    (course : Checking rules ctx kind line clock checks runs ending after)
    (ends : ending = .linted warning) :
    runs.map CheckRun.check =
      upToFirst (warning? rules ctx kind line) (checks.filter rules.enables) := by
  induction course with
  | clean clock => rfl
  | struck late => cases ends
  | disabled early off _ ih =>
    rw [List.filter_cons_of_neg (by rw [off]; decide)]
    exact ih ends
  | warned early enabled found =>
    rw [List.filter_cons_of_pos enabled, upToFirst, found]
    rfl
  | silent early enabled found _ ih =>
    rw [List.filter_cons_of_pos enabled, upToFirst, found, List.map_cons, ih ends]
    rfl

theorem timed_iff {check : Check} :
    ((Timings.empty.recordAll runs).get? check).isSome = true ↔ check ∈ runs.map CheckRun.check := by
  rw [get?_recordAll_empty, isSome_spent, List.mem_map]

theorem lineKind?_eq_none_iff : lineKind? (trimmed line) = none ↔ ¬ Significant line := by
  unfold Significant
  rw [Ne, ← String.toList_inj]
  unfold lineKind?
  split
  · rename_i nothing
    simp [nothing]
  · rename_i comment
    simp [comment]
  · rename_i bang
    simp [bang]
  · rename_i no_text no_comment no_bang
    cases text : (trimmed line).toList with
    | nil => exact absurd text no_text
    | cons c rest =>
      have other_than_comment : c ≠ '#' := by
        rintro rfl
        exact no_comment rest text
      simp [other_than_comment]

theorem exists_kind (significant : Significant line) :
    ∃ kind, lineKind? (trimmed line) = some kind := by
  apply Option.ne_none_iff_exists'.mp
  intro nothing
  exact lineKind?_eq_none_iff.mp nothing significant

theorem lintLine_idle (nothing : linter.enabled = false ∨ ¬ Significant line) :
    lintLine linter ctx line clock = (some {}, clock) :=
  (Linting.idle (nothing.imp_right lineKind?_eq_none_iff.mpr)).lintLine_eq

theorem finding_eq {finding : Finding} (enabled : linter.enabled = true)
    (about : lineKind? (trimmed line) = some kind)
    (found : (lintLine linter ctx line clock).1 = some finding) :
    finding.warning = (ctx.order.filter linter.rules.enables).findSome?
        (warning? linter.rules ctx kind (trimmed line)) ∧
      ∀ check, (finding.timings.get? check).isSome = true ↔
        check ∈ upToFirst (warning? linter.rules ctx kind (trimmed line))
          (ctx.order.filter linter.rules.enables) := by
  obtain ⟨runs, ending, after, course⟩ :=
    exists_checking linter.rules ctx kind (trimmed line) clock ctx.order
  rw [(Linting.checked enabled about course).lintLine_eq] at found
  cases ending with
  | struck => cases found
  | linted warning =>
    obtain rfl := Option.some.inj found
    refine ⟨course.warning_eq rfl, fun check => ?_⟩
    rw [← course.checks_eq rfl]
    exact timed_iff

theorem lintLine_early (linter : LinterConfig) (ctx : Context) (line : String)
    (early : clock.Early ctx.due) :
    ∃ finding, (lintLine linter ctx line clock).1 = some finding ∧
      finding.warning = firstWarning? linter ctx (trimmed line) := by
  obtain ⟨runs, ending, after, course⟩ := exists_linting linter ctx line clock
  rw [course.lintLine_eq]
  cases ending with
  | struck => exact absurd early course.late
  | linted warning => exact ⟨_, rfl, course.warning_eq⟩

/-- With any check in the order, also one that is switched off, a line is not linted once the
deadline has come. -/
theorem lintLine_late (enabled : linter.enabled = true) (significant : Significant line)
    (late : ctx.due ≤ clock.now) (listed : ctx.order ≠ []) :
    (lintLine linter ctx line clock).1 = none := by
  obtain ⟨kind, about⟩ := exists_kind significant
  obtain ⟨check, rest, order⟩ := List.exists_cons_of_ne_nil listed
  have course : Checking linter.rules ctx kind (trimmed line) clock ctx.order [] .struck
      clock.next := by
    rw [order]
    exact .struck late
  rw [(Linting.checked enabled about course).lintLine_eq]
  rfl

end

/-- The enabled checks of the order run up to the first that has something to say about the trimmed
line, and what it says is the warning: this holds for every line that is linted to its end, and all
lines are, as long as the deadline is ahead. Empty lines and comments have neither warning nor
times. Once the deadline has come, an enabled check in the order keeps a line from being linted. -/
theorem first_warning_wins (linter : LinterConfig) (ctx : Context) (line : String) (clock : Clock)
    (enabled : linter.enabled = true) :
    (¬ Significant line → (lintLine linter ctx line clock).1 = some {}) ∧
    (Significant line → ∃ kind, lineKind? (trimmed line) = some kind ∧
      (∀ finding, (lintLine linter ctx line clock).1 = some finding → ∃ ran,
        FirstWord (warning? linter.rules ctx kind (trimmed line))
          (ctx.order.filter linter.rules.enables) finding.warning ran ∧
        ∀ check, (finding.timings.get? check).isSome = true ↔ check ∈ ran) ∧
      (clock.Early ctx.due → ∃ finding, (lintLine linter ctx line clock).1 = some finding) ∧
      (ctx.due ≤ clock.now → (∃ check ∈ ctx.order, linter.rules.enables check = true) →
        (lintLine linter ctx line clock).1 = none)) := by
  constructor
  · intro idle
    rw [lintLine_idle (.inr idle)]
  · intro significant
    obtain ⟨kind, about⟩ := exists_kind significant
    refine ⟨kind, about, ?_, ?_, ?_⟩
    · intro finding found
      obtain ⟨warning, timed⟩ := finding_eq enabled about found
      refine ⟨_, ?_, timed⟩
      rw [warning]
      exact firstWord_upToFirst _ _
    · intro early
      obtain ⟨finding, found, _⟩ := lintLine_early linter ctx line early
      exact ⟨finding, found⟩
    · rintro late ⟨check, member, _⟩
      exact lintLine_late enabled significant late (List.ne_nil_of_mem member)

def carefree : LinterConfig where
  rules := { warnInvalidSyntax := false }

def Context.banning : Context where
  known := ["say"]
  blacklist := ["ban"]
  order := [.metaSyntax, .unknownMeta, .blacklist, .existence, .blacklist, .unknownMeta]
  due := 1

theorem first_warning_wins_banned :
    (∃ finding ran, (lintLine carefree .banning " /Ban Steve" (.still 0)).1 = some finding ∧
      finding.warning = some "Command 'ban' is blacklisted." ∧
      finding.timings.checks = [.unknownMeta, .blacklist] ∧
      FirstWord (warning? carefree.rules .banning .command "/Ban Steve")
        [.unknownMeta, .blacklist, .existence, .blacklist, .unknownMeta] finding.warning ran ∧
      ∀ check, (finding.timings.get? check).isSome = true ↔ check ∈ ran) ∧
    (lintLine carefree .banning " /Ban Steve" (.still 1)).1 = none ∧
    (lintLine carefree .banning " # ban" (.still 1)).1 = some {} := by
  have shown : (lintLine carefree .banning " /Ban Steve" (.still 0)).1.map (fun finding =>
      (finding.warning, finding.timings.checks)) =
        some (some "Command 'ban' is blacklisted.", [.unknownMeta, .blacklist]) := by
    decide +kernel
  have trims : trimmed " /Ban Steve" = "/Ban Steve" := by decide +kernel
  have command : lineKind? "/Ban Steve" = some .command := by decide
  have significant : Significant " /Ban Steve" := by decide +kernel
  obtain ⟨kind, about, runs, returns, _⟩ :=
    (first_warning_wins carefree .banning " /Ban Steve" (.still 0) rfl).2 significant
  obtain ⟨_, _, _, _, refuses⟩ :=
    (first_warning_wins carefree .banning " /Ban Steve" (.still 1) rfl).2 significant
  rw [trims] at about runs
  obtain rfl := Option.some.inj (command.symm.trans about)
  obtain ⟨finding, found⟩ := returns fun _ => Nat.zero_lt_one
  obtain ⟨ran, heard, timed⟩ := runs finding found
  rw [found] at shown
  obtain ⟨warning, checks⟩ := Prod.mk.inj (Option.some.inj shown)
  refine ⟨⟨finding, ran, found, warning, checks, heard, timed⟩, ?_, ?_⟩
  · exact refuses (Nat.le_refl 1) ⟨.blacklist, by decide, rfl⟩
  · exact (first_warning_wins carefree .banning " # ban" (.still 1) rfl).1 (by decide +kernel)

end ConsoleBatch.Lint
