import ConsoleBatch.Proofs.Agreement

/-! The endings of the lines of a file.

A line that is read is trimmed first, and with its other blanks it loses the carriage returns in front
of its line feed. So it is the same file with or without them, and also with or without a line feed
behind its last line. -/

namespace ConsoleBatch

namespace Text

def addReturns (text : List Char) : List Char :=
  text.flatMap fun c => if c = '\n' then ['\r', '\n'] else [c]

theorem addReturns_unbroken {line : List Char} (unbroken : '\n' ∉ line) :
    addReturns line = line := by
  induction line with
  | nil => rfl
  | cons c line ih =>
    obtain ⟨other, onward⟩ := not_or.mp (mt List.mem_cons.mpr unbroken)
    rw [addReturns, List.flatMap_cons, if_neg (Ne.symm other)]
    exact congrArg (c :: ·) (ih onward)

theorem addReturns_feed {line : List Char} (unbroken : '\n' ∉ line) (rest : List Char) :
    addReturns (line ++ '\n' :: rest) = (line ++ ['\r']) ++ '\n' :: addReturns rest := by
  have front := addReturns_unbroken unbroken
  unfold addReturns at front ⊢
  rw [List.flatMap_append, front, List.append_assoc]
  rfl

theorem trim_lines_addReturns (text : List Char) :
    (lines (addReturns text)).map trim = (lines text).map trim := by
  induction lined text with
  | last unbroken => rw [addReturns_unbroken unbroken]
  | @line line rest unbroken _ ih =>
    have returned : '\n' ∉ line ++ ['\r'] := by simp [unbroken]
    rw [addReturns_feed unbroken, lines_feed returned, lines_feed unbroken, List.map_cons,
      List.map_cons, ih, trim_withoutReturn, trim_withoutReturn, trim_blank (by decide)]

/-- A line feed behind the last line adds no line. -/
theorem trim_lines_feed {text : List Char} (some_text : text ≠ [])
    (unfinished : text.getLast? ≠ some '\n') :
    (lines (text ++ ['\n'])).map trim = (lines text).map trim := by
  induction lined text with
  | last unbroken =>
    rw [lines_feed unbroken, lines_nil, lines_unbroken unbroken,
      if_neg (by simpa using some_text), List.map_singleton, List.map_singleton,
      trim_withoutReturn]
  | @line line rest unbroken _ ih =>
    cases rest with
    | nil => simp at unfinished
    | cons c rest =>
      have onward : (c :: rest).getLast? ≠ some '\n' := by simpa using unfinished
      rw [List.append_assoc, List.cons_append, lines_feed unbroken, lines_feed unbroken,
        List.map_cons, List.map_cons, ih (List.cons_ne_nil c rest) onward]

def withReturns (content : String) : String :=
  String.ofList (addReturns content.toList)

end Text

namespace Batch

open Lint (Clock)
open Text

/-- A file that differs from another one in the endings of its lines: there are carriage returns in
front of the line feeds, or a line feed where the file ended without one. -/
inductive EndedOtherwise (content : String) : String → Prop
  | returns : EndedOtherwise content (withReturns content)
  | closed (unfinished : content.toList.getLast? ≠ some '\n') :
      EndedOtherwise content (content ++ "\n")

theorem numberedLines_trimmed (raws : List String) :
    numberedLines 1 (raws.map trimmed) = numberedLines 1 raws := by
  simp [numberedLines, List.zipIdx_map, Function.comp_def, trimmed_trimmed]

theorem numberedLines_of_trimmed {raws raws' : List String}
    (same : raws.map trimmed = raws'.map trimmed) :
    numberedLines 1 raws = numberedLines 1 raws' := by
  rw [← numberedLines_trimmed raws, same, numberedLines_trimmed]

theorem trimmed_contentLines (content : String) :
    (contentLines content).map trimmed = ((lines content.toList).map trim).map String.ofList := by
  simp [contentLines, trimmed, Function.comp_def]

theorem numberedLines_endings {content content' : String}
    (other : EndedOtherwise content content') :
    numberedLines 1 (contentLines content') = numberedLines 1 (contentLines content) := by
  cases other with
  | returns =>
    apply numberedLines_of_trimmed
    rw [trimmed_contentLines, trimmed_contentLines, withReturns, String.toList_ofList,
      trim_lines_addReturns]
  | closed unfinished =>
    by_cases empty : content = ""
    · -- The only line that is added here is blank.
      rw [empty]
      decide +kernel
    · apply numberedLines_of_trimmed
      rw [trimmed_contentLines, trimmed_contentLines, String.toList_append]
      exact congrArg _ (trim_lines_feed (mt String.toList_eq_nil_iff.mp empty) unfinished)

/-- A file that differs in the endings of its lines alone is the same batch, or cancelled as well.
Where two clocks come to the deadline alike, the batches differ at most in the times that were
measured. -/
theorem line_endings_ignored (config : Config) (known : List String) {content content' : String}
    (other : EndedOtherwise content content') :
    (∀ clock, parse config known content' clock = parse config known content clock) ∧
      ∀ expired clock clock', clock.Settled expired (lintTime config) →
        clock'.Settled expired (lintTime config) →
          Option.Rel (Parsed.Alike fun _ _ => True) (parse config known content clock)
            (parse config known content' clock') := by
  have same : ∀ clock, parse config known content' clock = parse config known content clock := by
    intro clock
    rw [parse_eq, parse_eq, lintPass, lintPass, numberedLines_endings other]
  refine ⟨same, ?_⟩
  intro expired clock clock' settled settled'
  rw [same]
  exact parse_alike (fun _ _ => trivial) config (fun _ => Iff.rfl) content
    (Clock.inStep_of_settled settled settled')

theorem line_endings_ignored_mixed :
    mixed.toList.getLast? ≠ some '\n' ∧
      ∃ batch batch', parse {} ["say"] mixed (.still 0) = some batch ∧
        parse {} ["say"] (mixed ++ "\n") (.still 0) = some batch ∧
        parse {} ["say"] (withReturns mixed) (.still 7) = some batch' ∧
        Parsed.Alike (fun _ _ => True) batch batch' ∧
        batch'.invalidSleeps = [.invalidSleep 5 "!sleep soon" (.notANumber "soon")] := by
  have unfinished : mixed.toList.getLast? ≠ some '\n' := by decide
  obtain ⟨batch, read, account⟩ := Option.map_eq_some_iff.mp parse_mixed
  have closed := (line_endings_ignored {} ["say"] (.closed unfinished)).1 (.still 0)
  have returned : EndedOtherwise mixed (withReturns mixed) := .returns
  have alike := (line_endings_ignored {} ["say"] returned).2 False (.still 0) (.still 7)
    (settled_still {} 0 (by decide)) (settled_still {} 7 (by decide))
  rw [read] at closed alike
  generalize parse {} ["say"] (withReturns mixed) (.still 7) = result at alike ⊢
  obtain ⟨_, rejected⟩ := Prod.mk.inj account
  cases alike with
  | some times =>
    refine ⟨unfinished, batch, _, read, closed, rfl, times, ?_⟩
    cases times
    exact rejected

end Batch

end ConsoleBatch
