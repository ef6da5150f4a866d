import ConsoleBatch.Proofs.Casing

/-! Two ways of telling a command by its name.

The blacklist compares names character by character, the known commands are lowered as whole texts.
Only a capital sigma that ends a word can make a difference: the blacklist takes it for the small
sigma of other places, and the known commands and the warnings have its final form. -/

namespace ConsoleBatch.Lint

open Text

def Warns (rules : LintRules) (ctx : Context) (check : Check) (line : String) : Prop :=
  ∃ kind, lineKind? line = some kind ∧ (warning? rules ctx kind line check).isSome = true

/-- The context with one name for a blacklist, and the same name as the only known command. -/
def Context.about (ctx : Context) (entry : String) : Context :=
  { ctx with known := [entry].map lowered, blacklist := [entry] }

variable {rules : LintRules} {ctx : Context} {line : String}

theorem warns_iff (command : lineKind? line = some .command) {check : Check} :
    Warns rules ctx check line ↔ (warning? rules ctx .command line check).isSome = true := by
  constructor
  · rintro ⟨kind, same, warns⟩
    cases command.symm.trans same
    exact warns
  · intro warns
    exact ⟨.command, command, warns⟩

theorem warns_blacklist_iff (command : lineKind? line = some .command) :
    Warns rules ctx .blacklist line ↔ isDangerous line ctx.blacklist = true := by
  rw [warns_iff command, warning?, if_pos rfl, blacklistWarning?]
  split <;> simp [*]

theorem existenceWarning?_eq_none_iff {known : List String} :
    existenceWarning? rules known line = none ↔ loweredName line ∈ known := by
  unfold existenceWarning?
  by_cases known : loweredName line ∈ known
  · simp [known]
  · rw [if_neg known]
    dsimp only
    split <;> simp [known]

theorem warns_existence_iff (command : lineKind? line = some .command) :
    Warns rules ctx .existence line ↔ loweredName line ∉ ctx.known := by
  rw [warns_iff command, warning?, if_pos rfl, Option.isSome_iff_ne_none, Ne,
    existenceWarning?_eq_none_iff]

theorem isBlacklisted_iff {name : String} {blacklist : List String} (named : name ≠ "") :
    isBlacklisted name blacklist = true ↔
      ∃ entry ∈ blacklist, lowerEach entry.toList = lowerEach name.toList := by
  simp [isBlacklisted, named]

theorem isBlacklisted_singleton {name entry : String} (named : name ≠ "") :
    isBlacklisted name [entry] = true ↔ lowerEach name.toList = lowerEach entry.toList := by
  rw [isBlacklisted_iff named]
  simp [eq_comm]

theorem loweredName_mem_iff {entry : String} :
    loweredName line ∈ [entry].map lowered ↔
      lower (commandName line).toList = lower entry.toList := by
  rw [List.map_singleton, List.mem_singleton, loweredName, ← String.toList_inj, toList_lowered,
    toList_lowered]

theorem loweredName_ne_empty (named : commandName line ≠ "") : loweredName line ≠ "" := by
  have some_name : (commandName line).toList ≠ [] := fun none =>
    named (String.toList_eq_nil_iff.mp none)
  intro empty
  apply lowerAfter_ne_nil false some_name
  rw [loweredName, ← String.toList_inj, toList_lowered] at empty
  exact empty

theorem isBlacklisted_loweredName {blacklist : List String} (named : commandName line ≠ "")
    (plain : ¬ HasFinalSigma (commandName line).toList)
    (dangerous : isDangerous line blacklist = true) :
    isBlacklisted (loweredName line) blacklist = true := by
  obtain ⟨entry, member, same⟩ := (isBlacklisted_iff named).mp dangerous
  refine (isBlacklisted_iff (loweredName_ne_empty named)).mpr ⟨entry, member, ?_⟩
  rw [same, loweredName, toList_lowered, lower_eq_lowerEach_iff.mpr plain, lowerEach_lowerEach]

/-- The blacklist and the known commands tell commands by the same names, as long as no capital
sigma ends a word of them, and the name that a warning shows is on the blacklist too. Otherwise the
names that one of them takes for the same still differ in the form of small sigmas alone, and the
shown name is not what the entry stands for. -/
theorem blacklist_agrees_with_known (rules : LintRules) (ctx : Context) (line : String)
    (command : lineKind? line = some .command) (named : commandName line ≠ "") :
    (∀ entry : String,
      (¬ HasFinalSigma (commandName line).toList → ¬ HasFinalSigma entry.toList →
        (Warns rules (ctx.about entry) .blacklist line ↔
          ¬ Warns rules (ctx.about entry) .existence line)) ∧
      (Warns rules (ctx.about entry) .blacklist line ∨
          ¬ Warns rules (ctx.about entry) .existence line →
        (lowerEach (commandName line).toList).map innerSigma =
          (lowerEach entry.toList).map innerSigma) ∧
      (Warns rules (ctx.about entry) .blacklist line →
        (isBlacklisted (loweredName line) [entry] = true ↔
          ¬ HasFinalSigma (commandName line).toList))) ∧
    ∀ message, warning? rules ctx .command line .blacklist = some message →
      message = "Command '" ++ loweredName line ++ "' is blacklisted." ∧
      (¬ HasFinalSigma (commandName line).toList →
        isBlacklisted (loweredName line) ctx.blacklist = true) := by
  have shown := loweredName_ne_empty named
  constructor
  · intro entry
    have fires : Warns rules (ctx.about entry) .blacklist line ↔
        lowerEach (commandName line).toList = lowerEach entry.toList :=
      (warns_blacklist_iff command).trans (isBlacklisted_singleton named)
    have silent : ¬ Warns rules (ctx.about entry) .existence line ↔
        lower (commandName line).toList = lower entry.toList := by
      rw [warns_existence_iff command, Classical.not_not]
      exact loweredName_mem_iff
    rw [fires, silent]
    refine ⟨?_, ?_, ?_⟩
    · intro plain plain_entry
      rw [lower_eq_lowerEach_iff.mpr plain, lower_eq_lowerEach_iff.mpr plain_entry]
    · rintro (same | same)
      · rw [same]
      · rw [← innerSigma_lower, ← innerSigma_lower, same]
    · intro same
      rw [isBlacklisted_singleton shown, loweredName, toList_lowered, lowerEach_lower, ← same]
      exact lower_eq_lowerEach_iff
  · intro message said
    rw [warning?, if_pos rfl, blacklistWarning?] at said
    split at said
    · rename_i dangerous
      exact ⟨(Option.some.inj said).symm, fun plain =>
        isBlacklisted_loweredName named plain dangerous⟩
    · cases said

def Context.blank : Context where
  known := []
  blacklist := []
  order := Check.all
  due := 0

theorem blacklist_agrees_with_known_dotted :
    Warns {} (Context.blank.about "i\u0307STOP") .blacklist "/\u0130stop Now" ∧
      ¬ Warns {} (Context.blank.about "i\u0307STOP") .existence "/\u0130stop Now" ∧
      isBlacklisted "i\u0307stop" ["i\u0307STOP"] = true := by
  have command : lineKind? "/\u0130stop Now" = some .command := by decide
  have shown : loweredName "/\u0130stop Now" = "i\u0307stop" := by decide +kernel
  have plain : ¬ HasFinalSigma (commandName "/\u0130stop Now").toList :=
    lower_eq_lowerEach_iff.mp (by decide +kernel)
  have plain_entry : ¬ HasFinalSigma "i\u0307STOP".toList :=
    lower_eq_lowerEach_iff.mp (by decide +kernel)
  have warns : Warns {} (Context.blank.about "i\u0307STOP") .blacklist "/\u0130stop Now" :=
    ⟨.command, command, by decide +kernel⟩
  have agrees := (blacklist_agrees_with_known {} Context.blank "/\u0130stop Now" command
    (by decide +kernel)).1 "i\u0307STOP"
  rw [shown] at agrees
  exact ⟨warns, (agrees.1 plain plain_entry).mp warns, (agrees.2.2 warns).mpr plain⟩

/-- A command whose name the blacklist takes for an entry and the known commands do not, and whose
name is not on the blacklist in the spelling that the warning shows. -/
theorem final_sigma_slips_past :
    lineKind? "AΣ" = some .command ∧ commandName "AΣ" ≠ "" ∧
      warning? {} (Context.blank.about "aσ") .command "AΣ" .blacklist =
        some "Command 'aς' is blacklisted." ∧
      warning? {} (Context.blank.about "aσ") .command "AΣ" .existence =
        some "Unknown command 'aς'. Did you mean 'aσ'?" ∧
      commandName "aς" = "aς" ∧ isDangerous "aς" ["aσ"] = false := by
  decide +kernel

end ConsoleBatch.Lint
