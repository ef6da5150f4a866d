import ConsoleBatch.Proofs.Agreement
import ConsoleBatch.Proofs.ClosestMatch
import ConsoleBatch.Proofs.LineChecks
import ConsoleBatch.Proofs.Spelling

/-! What becomes of a suggestion that is typed.

A suggestion is a known name in lower case. As a line it is trimmed, may be empty, a comment or a
directive, and gives away one slash and all but its first word before its own name is looked up. So
it is of use if that name is known, and of use in any case if it is one word without a special
character in front. -/

namespace ConsoleBatch

namespace Text

def blankCodes : List Nat :=
  [9, 10, 11, 12, 13, 32, 0x85, 0xA0, 0x1680, 0x2000, 0x2001, 0x2002, 0x2003, 0x2004, 0x2005,
    0x2006, 0x2007, 0x2008, 0x2009, 0x200A, 0x2028, 0x2029, 0x202F, 0x205F, 0x3000]

theorem noCapital_blankCodes : ∀ n ∈ blankCodes, NoCapital (Char.ofNat n) := by
  decide +kernel

theorem noCapital_of_isBlank {c : Char} (blank : isBlank c = true) : NoCapital c := by
  have listed : c.toNat ∈ blankCodes := by
    simp only [isBlank, Bool.or_eq_true, Bool.and_eq_true, decide_eq_true_eq, beq_iff_eq] at blank
    simp only [blankCodes, List.mem_cons, List.not_mem_nil]
    omega
  have own := noCapital_blankCodes c.toNat listed
  rwa [Char.ofNat_toNat] at own

variable {wordOpen : Bool} {text : List Char} {mark : Char}

theorem lowerAfter_eq_self (fixed : ∀ small ∈ text, lowerChar small = [small]) :
    lowerAfter wordOpen text = text := by
  induction text generalizing wordOpen with
  | nil => rfl
  | cons c rest ih =>
    have here := fixed c List.mem_cons_self
    have no_sigma : c ≠ 'Σ' := by
      rintro rfl
      rw [lowerChar_sigma] at here
      exact absurd here (by decide)
    rw [lowerAfter, if_neg no_sigma, here, ih fun small member =>
      fixed small (List.mem_cons_of_mem _ member)]
    rfl

theorem NoCapital.mem_of_lowerAfter (own : NoCapital mark)
    (member : mark ∈ lowerAfter wordOpen text) : mark ∈ text := by
  rcases mem_lowerAfter member with final | ⟨c, listed, lowers⟩
  · exact absurd final own.no_final
  · rwa [← own.eq_of_mem_lowerChar lowers]

theorem NoCapital.head?_of_lowerAfter (own : NoCapital mark)
    (start : (lowerAfter wordOpen text).head? = some mark) : text.head? = some mark := by
  cases text with
  | nil => cases start
  | cons c rest =>
    obtain ⟨first, more, split⟩ := List.exists_cons_of_ne_nil
      (lowerWithin_ne_nil (wordOpen && ! leadsToCased rest) c)
    rw [lowerAfter_cons, split] at start
    obtain rfl : first = mark := Option.some.inj start
    have here : first ∈ lowerWithin (wordOpen && ! leadsToCased rest) c := by
      rw [split]
      exact List.mem_cons_self
    rcases mem_lowerWithin here with final | lowers
    · exact absurd final own.no_final
    · rw [own.eq_of_mem_lowerChar lowers]
      rfl

theorem firstWord_sublist (line : List Char) : (firstWord line).Sublist line :=
  (List.takeWhile_sublist _).trans (List.dropWhile_sublist _)

theorem withoutSlash_sublist (line : List Char) : (withoutSlash line).Sublist line := by
  unfold withoutSlash
  split
  · exact List.sublist_cons_self _ _
  · exact List.Sublist.refl _

theorem commandChars_sublist (line : List Char) : (commandChars line).Sublist line :=
  (firstWord_sublist _).trans ((withoutSlash_sublist _).trans (infix_trim line).sublist)

theorem commandChars_trim (line : List Char) : commandChars (trim line) = commandChars line := by
  unfold commandChars
  rw [trim_of_bare (bare_trim line)]

theorem lower_commandChars (text : List Char) :
    lower (commandChars (lower text)) = commandChars (lower text) := by
  apply lowerAfter_eq_self
  intro small member
  exact fixed_of_mem_lowerAfter ((commandChars_sublist _).subset member)

theorem bare_of_word {word : List Char} (token : IsWord word) : Bare word where
  front first start := token.unbroken first (List.mem_of_mem_head? start)
  back last finish := token.unbroken last (List.mem_of_mem_getLast? finish)

end Text

namespace Lint

open Batch (IsDirective Significant)
open Text

variable {rules : LintRules} {ctx : Context} {line name typed : String}

theorem toList_loweredName (line : String) :
    (loweredName line).toList = lower (commandChars line.toList) := by
  rw [loweredName, toList_lowered, toList_commandName]

structure IsPlain (name : String) : Prop where
  word : IsWord name.toList
  no_comment : name.toList.head? ≠ some '#'
  no_directive : name.toList.head? ≠ some '!'
  no_slash : name.toList.head? ≠ some '/'

instance (name : String) : Decidable (IsPlain name) :=
  decidable_of_iff
    (IsWord name.toList ∧ name.toList.head? ≠ some '#' ∧ name.toList.head? ≠ some '!' ∧
      name.toList.head? ≠ some '/')
    ⟨fun ⟨word, comment, directive, slash⟩ => ⟨word, comment, directive, slash⟩,
      fun plain => ⟨plain.word, plain.no_comment, plain.no_directive, plain.no_slash⟩⟩

theorem isPlain_lowered (plain : IsPlain name) : IsPlain (lowered name) where
  word := by
    rw [toList_lowered]
    refine ⟨lowerAfter_ne_nil false plain.word.nonempty, ?_⟩
    intro c member
    rw [← Bool.not_eq_true]
    intro blank
    have written := (noCapital_of_isBlank blank).mem_of_lowerAfter member
    rw [plain.word.unbroken c written] at blank
    cases blank
  no_comment start := by
    rw [toList_lowered] at start
    exact plain.no_comment (NoCapital.head?_of_lowerAfter (by decide +kernel) start)
  no_directive start := by
    rw [toList_lowered] at start
    exact plain.no_directive (NoCapital.head?_of_lowerAfter (by decide +kernel) start)
  no_slash start := by
    rw [toList_lowered] at start
    exact plain.no_slash (NoCapital.head?_of_lowerAfter (by decide +kernel) start)

/-- Typed as a line, the text is a command that the existence check lets pass. -/
structure Usable (rules : LintRules) (ctx : Context) (typed : String) : Prop where
  command : lineKind? (trimmed typed) = some .command
  silent : warning? rules ctx .command (trimmed typed) .existence = none

theorem usable_iff :
    Usable rules ctx typed ↔
      Significant typed ∧ ¬ IsDirective typed ∧ loweredName typed ∈ ctx.known := by
  have command : lineKind? (trimmed typed) = some .command ↔
      Significant typed ∧ ¬ IsDirective typed := by
    rw [lineKind?_command, Significant, IsDirective, and_assoc]
  have same_name : loweredName (trimmed typed) = loweredName typed := by
    rw [← String.toList_inj, toList_loweredName, toList_loweredName, toList_trimmed,
      commandChars_trim]
  have silent : warning? rules ctx .command (trimmed typed) .existence = none ↔
      loweredName typed ∈ ctx.known := by
    rw [warning?, if_pos rfl, existenceWarning?_eq_none_iff, same_name]
  rw [← and_assoc, ← command, ← silent]
  exact ⟨fun usable => ⟨usable.command, usable.silent⟩, fun both => ⟨both.1, both.2⟩⟩

theorem loweredName_lowered (name : String) :
    loweredName (lowered name) = commandName (lowered name) := by
  rw [← String.toList_inj, toList_loweredName, toList_commandName, toList_lowered,
    lower_commandChars]

theorem usable_of_plain (plain : IsPlain (lowered name)) (known : lowered name ∈ ctx.known) :
    Usable rules ctx (lowered name) := by
  have kept : trimmed (lowered name) = lowered name := by
    rw [← String.toList_inj, toList_trimmed]
    exact trim_of_bare (bare_of_word plain.word)
  have whole : commandName (lowered name) = lowered name := by
    rw [← String.toList_inj, toList_commandName]
    exact commandChars_of_calls ⟨plain.word, plain.no_slash⟩ (calls_self _)
  refine usable_iff.mpr ⟨⟨?_, ?_⟩, ?_, ?_⟩
  · rw [kept, Ne, ← String.toList_eq_nil_iff]
    exact plain.word.nonempty
  · rw [kept]
    exact plain.no_comment
  · rw [IsDirective, kept]
    exact plain.no_directive
  · rwa [loweredName_lowered, whole]

def suggestionWarning (name suggestion : String) : String :=
  "Unknown command '" ++ name ++ "'. Did you mean '" ++ suggestion ++ "'?"

theorem suggestionWarning_inj {suggestion other : String}
    (same : suggestionWarning name suggestion = suggestionWarning name other) :
    suggestion = other :=
  (String.append_right_inj _).mp ((String.append_left_inj _).mp same)

/-- A warning without a suggestion is too short for one with a suggestion. -/
theorem ne_suggestionWarning (name suggestion : String) :
    "Unknown command '" ++ name ++ "'." ≠ suggestionWarning name suggestion := by
  have split : suggestionWarning name suggestion =
      "Unknown command '" ++ name ++ ("'. Did you mean '" ++ (suggestion ++ "'?")) := by
    unfold suggestionWarning
    rw [String.append_assoc, String.append_assoc]
  rw [split]
  intro same
  have ending := (String.append_right_inj _).mp same
  have lengths := congrArg String.length ending
  have short : "'.".length = 2 := rfl
  have long : "'. Did you mean '".length = 17 := rfl
  rw [String.length_append, short, long] at lengths
  omega

theorem suggested_of_answer {known : List String} {suggestion : String}
    (answer : existenceWarning? rules known line =
      some (suggestionWarning (loweredName line) suggestion)) :
    closestMatch (loweredName line) known = some suggestion := by
  unfold existenceWarning? at answer
  dsimp only at answer
  split at answer
  · cases answer
  · split at answer
    · rename_i other found
      obtain rfl : other = suggestion := suggestionWarning_inj (Option.some.inj answer)
      split at found
      · exact found
      · cases found
    · exact absurd (Option.some.inj answer) (ne_suggestionWarning _ _)

theorem suggested_is_known {known : List String} {suggestion : String}
    (answer : existenceWarning? rules known line =
      some (suggestionWarning (loweredName line) suggestion)) : suggestion ∈ known :=
  (closestMatch_eq_some_iff.mp (suggested_of_answer answer)).1.candidate

/-- A suggestion is a registered name in lower case. Typed as a line it is a command that the
existence check lets pass if it is neither empty nor a comment nor a directive and calls a command
that is known. A registered name that is one word without a special character in front is always
suggested in a form that can be typed. -/
theorem suggestion_usable_iff (rules : LintRules) (ctx : Context) (registry : List String)
    (line suggestion : String) (snapshot : ctx.known = registry.map lowered)
    (answer : warning? rules ctx .command (trimmed line) .existence =
      some (suggestionWarning (loweredName (trimmed line)) suggestion)) :
    (∃ name ∈ registry, lowered name = suggestion) ∧
    (Usable rules ctx suggestion ↔
      Significant suggestion ∧ ¬ IsDirective suggestion ∧ commandName suggestion ∈ ctx.known) ∧
    ∀ name, lowered name = suggestion → IsPlain name → Usable rules ctx suggestion := by
  rw [warning?, if_pos rfl] at answer
  have known := suggested_is_known answer
  have listed := known
  rw [snapshot] at listed
  obtain ⟨name, member, rfl⟩ := List.mem_map.mp listed
  refine ⟨⟨name, member, rfl⟩, ?_, ?_⟩
  · rw [usable_iff, loweredName_lowered]
  · intro other same plain
    rw [← same] at known ⊢
    exact usable_of_plain (isPlain_lowered plain) known

def Context.knowing (registry : List String) : Context :=
  { Context.blank with known := registry.map lowered }

theorem suggestion_usable_iff_kick :
    warning? {} (.knowing ["say", "Kick"]) .command (trimmed " /Kik Steve") .existence =
        some "Unknown command 'kik'. Did you mean 'kick'?" ∧
      Usable {} (.knowing ["say", "Kick"]) "kick" := by
  have answer : warning? {} (.knowing ["say", "Kick"]) .command (trimmed " /Kik Steve")
      .existence = some (suggestionWarning (loweredName (trimmed " /Kik Steve")) "kick") := by
    decide +kernel
  have shown : suggestionWarning (loweredName (trimmed " /Kik Steve")) "kick" =
      "Unknown command 'kik'. Did you mean 'kick'?" := by
    decide +kernel
  have plain : IsPlain "Kick" := by decide
  obtain ⟨_, _, typed⟩ := suggestion_usable_iff {} (.knowing ["say", "Kick"]) ["say", "Kick"]
    " /Kik Steve" "kick" rfl answer
  exact ⟨shown ▸ answer, typed "Kick" (by decide +kernel) plain⟩

instance (rules : LintRules) (ctx : Context) (typed : String) :
    Decidable (Usable rules ctx typed) :=
  decidable_of_iff
    (lineKind? (trimmed typed) = some .command ∧
      warning? rules ctx .command (trimmed typed) .existence = none)
    ⟨fun ⟨command, silent⟩ => ⟨command, silent⟩, fun usable => ⟨usable.command, usable.silent⟩⟩

/-- A suggestion that loses its slash, one that is a comment, one that is a directive, one of two
words and an empty one. -/
theorem suggestions_not_usable :
    (warning? {} (.knowing ["/kick"]) .command "kick" .existence =
        some "Unknown command 'kick'. Did you mean '/kick'?" ∧
      ¬ Usable {} (.knowing ["/kick"]) "/kick") ∧
    (warning? {} (.knowing ["#kick"]) .command "kick" .existence =
        some "Unknown command 'kick'. Did you mean '#kick'?" ∧
      ¬ Usable {} (.knowing ["#kick"]) "#kick") ∧
    (warning? {} (.knowing ["!kick"]) .command "kick" .existence =
        some "Unknown command 'kick'. Did you mean '!kick'?" ∧
      ¬ Usable {} (.knowing ["!kick"]) "!kick") ∧
    (warning? {} (.knowing ["kick all"]) .command "kickall" .existence =
        some "Unknown command 'kickall'. Did you mean 'kick all'?" ∧
      ¬ Usable {} (.knowing ["kick all"]) "kick all") ∧
    (warning? {} (.knowing [""]) .command "tp" .existence =
        some "Unknown command 'tp'. Did you mean ''?" ∧
      ¬ Usable {} (.knowing [""]) "") := by
  decide +kernel

end Lint

end ConsoleBatch
