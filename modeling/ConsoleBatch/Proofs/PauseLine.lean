import ConsoleBatch.Proofs.Trimming
import ConsoleBatch.Sleep

/-! The pause that a line asks for, said by what the line looks like.

A word is said by the blanks around it, and the answer to a `!sleep` line by one rule for each way
it can go. The rules leave one answer to each line. -/

namespace ConsoleBatch

open Decimal (Double Parts)
open Text

namespace Text

def AllBlank (text : List Char) : Prop :=
  ∀ c ∈ text, isBlank c = true

structure IsWord (text : List Char) : Prop where
  nonempty : text ≠ []
  unbroken : ∀ c ∈ text, isBlank c = false

instance (text : List Char) : Decidable (IsWord text) :=
  decidable_of_iff (text ≠ [] ∧ (text.all fun c => isBlank c == false) = true)
    ⟨fun ⟨nonempty, unbroken⟩ => ⟨nonempty, fun c member =>
        beq_iff_eq.mp (List.all_eq_true.mp unbroken c member)⟩,
      fun token => ⟨token.nonempty, List.all_eq_true.mpr fun c member =>
        beq_iff_eq.mpr (token.unbroken c member)⟩⟩

inductive SecondToken : List Char → List Char → Prop
  | between {gap first middle word after : List Char} (indent : AllBlank gap)
      (leading : IsWord first) (apart : middle ≠ []) (blanks : AllBlank middle)
      (token : IsWord word) (ended : ∀ c ∈ after.head?, isBlank c = true) :
      SecondToken (gap ++ (first ++ (middle ++ (word ++ after)))) word

theorem trimStart_blanks {gap rest : List Char} (blank : AllBlank gap) :
    trimStart (gap ++ rest) = trimStart rest := by
  unfold trimStart
  exact List.dropWhile_append_of_pos blank

theorem trimStart_word {word rest : List Char} (token : IsWord word) :
    trimStart (word ++ rest) = word ++ rest := by
  unfold trimStart
  cases word with
  | nil => exact absurd rfl token.nonempty
  | cons c word =>
    have inked := token.unbroken c List.mem_cons_self
    simp [inked]

theorem span_word {word after : List Char} (token : IsWord word)
    (ended : ∀ c ∈ after.head?, isBlank c = true) :
    (word ++ after).takeWhile (! isBlank ·) = word ∧
      (word ++ after).dropWhile (! isBlank ·) = after := by
  have inked : ∀ c ∈ word, (! isBlank c) = true := by
    intro c member
    simp [token.unbroken c member]
  rw [List.takeWhile_append_of_pos inked, List.dropWhile_append_of_pos inked]
  cases after with
  | nil => simp
  | cons c after =>
    have blank : isBlank c = true := ended c rfl
    simp [blank]

theorem secondWord_of_token {text word : List Char} (second : SecondToken text word) :
    secondWord text = word := by
  cases second with
  | @between gap first middle word after indent leading apart blanks token ended =>
    have stops : ∀ c ∈ (middle ++ (word ++ after)).head?, isBlank c = true := by
      cases middle with
      | nil => exact absurd rfl apart
      | cons c middle =>
        intro d here
        cases here
        exact blanks c List.mem_cons_self
    have behind : afterFirstWord (gap ++ (first ++ (middle ++ (word ++ after)))) =
        middle ++ (word ++ after) := by
      unfold afterFirstWord
      rw [trimStart_blanks indent, trimStart_word leading]
      exact (span_word leading stops).2
    unfold secondWord firstWord
    rw [behind, trimStart_blanks blanks, trimStart_word token]
    exact (span_word token ended).1

theorem firstWord_split (text : List Char) :
    ∃ gap, text = gap ++ (firstWord text ++ afterFirstWord text) ∧ AllBlank gap := by
  refine ⟨text.takeWhile isBlank, ?_, ?_⟩
  · unfold firstWord afterFirstWord trimStart
    simp
  · exact fun c member => List.all_eq_true.mp List.all_takeWhile c member

theorem firstWord_inked (text : List Char) : ∀ c ∈ firstWord text, isBlank c = false := by
  intro c member
  have inked := List.all_eq_true.mp (List.all_takeWhile (l := trimStart text)) c member
  simpa using inked

theorem afterFirstWord_blank (text : List Char) :
    ∀ c ∈ (afterFirstWord text).head?, isBlank c = true := by
  intro c start
  have stopped := List.head?_dropWhile_not (! isBlank ·) (trimStart text)
  rw [Option.mem_def, afterFirstWord] at start
  rw [start] at stopped
  simpa using stopped

theorem afterFirstWord_of_no_word {text : List Char} (nothing : firstWord text = []) :
    afterFirstWord text = [] := by
  unfold firstWord at nothing
  unfold afterFirstWord
  have start := head_trimStart text
  cases rest : trimStart text with
  | nil => rfl
  | cons c more =>
    rw [rest] at nothing start
    have inked : isBlank c = false := start c rfl
    simp [inked] at nothing

theorem token_secondWord {text : List Char} (found : secondWord text ≠ []) :
    SecondToken text (secondWord text) := by
  obtain ⟨gap, whole, indent⟩ := firstWord_split text
  obtain ⟨middle, back, blanks⟩ := firstWord_split (afterFirstWord text)
  have stops := afterFirstWord_blank text
  have leading : IsWord (firstWord text) := by
    refine ⟨?_, firstWord_inked text⟩
    intro nothing
    apply found
    unfold secondWord
    rw [afterFirstWord_of_no_word nothing]
    rfl
  have token : IsWord (secondWord text) := ⟨found, firstWord_inked _⟩
  have apart : middle ≠ [] := by
    rintro rfl
    -- The character behind the first word would be in the second one.
    cases here : secondWord text with
    | nil => exact found here
    | cons c more =>
      rw [back, List.nil_append, ← secondWord, here] at stops
      have blank := stops c rfl
      have inked := token.unbroken c (by rw [here]; exact List.mem_cons_self)
      rw [blank] at inked
      cases inked
  rw [back] at whole
  have shape := SecondToken.between indent leading apart blanks token
    (afterFirstWord_blank (afterFirstWord text))
  unfold secondWord at shape ⊢
  rwa [← whole] at shape

end Text

def StartsWithSleep (line : String) : Prop :=
  ∃ word rest, line.toList = word ++ rest ∧ word.map Char.toLower = sleepWord.toList

theorem isSleepDirective_iff {line : String} :
    isSleepDirective line = true ↔ StartsWithSleep line := by
  have small : sleepWord.toList.map Char.toLower = sleepWord.toList := by decide
  unfold isSleepDirective sameIgnoringAsciiCase StartsWithSleep
  rw [beq_iff_eq, small]
  constructor
  · intro same
    exact ⟨_, _, (List.take_append_drop _ _).symm, same⟩
  · rintro ⟨word, rest, split, same⟩
    have size : word.length = sleepWord.toList.length := by
      rw [← same, List.length_map]
    rw [split, List.take_left' size]
    exact same

def IsLength (seconds : Double) : Prop :=
  ∃ negative significand exponent, seconds.parts = .finite negative significand exponent ∧
    (negative = true → significand = 0)

theorem isPauseLength_iff {seconds : Double} : isPauseLength seconds = true ↔ IsLength seconds := by
  unfold isPauseLength Double.isFinite Double.isBelowZero IsLength
  cases seconds.parts with
  | nan => simp
  | infinite negative => simp
  | finite negative significand exponent => cases negative <;> simp

/-- The answer to a line that asks for a pause. -/
inductive PauseRequest (line : String) : Except SleepError Double → Prop
  | missing (none_second : ∀ word, ¬ SecondToken line.toList word) :
      PauseRequest line (.error .missingArgument)
  | notANumber {word : List Char} (second : SecondToken line.toList word)
      (unread : Decimal.read? word = none) :
      PauseRequest line (.error (.notANumber (String.ofList word)))
  | outOfRange {word : List Char} {seconds : Double} (second : SecondToken line.toList word)
      (read : Decimal.read? word = some seconds) (no_length : ¬ IsLength seconds) :
      PauseRequest line (.error (.outOfRange (String.ofList word)))
  | length {word : List Char} {seconds : Double} (second : SecondToken line.toList word)
      (read : Decimal.read? word = some seconds) (fits : IsLength seconds) :
      PauseRequest line (.ok seconds)

theorem SecondToken.nonempty {text word : List Char} (second : SecondToken text word) :
    word ≠ [] := by
  cases second with
  | between _ _ _ _ token _ => exact token.nonempty

theorem sleepSeconds_of_request {line : String} {answer : Except SleepError Double}
    (request : PauseRequest line answer) : sleepSeconds line = answer := by
  unfold sleepSeconds
  cases request with
  | missing none_second =>
    have empty : secondWord line.toList = [] := by
      by_cases found : secondWord line.toList = []
      · exact found
      · exact absurd (token_secondWord found) (none_second _)
    simp [empty]
  | notANumber second unread =>
    rw [secondWord_of_token second]
    simp [SecondToken.nonempty second, unread]
  | outOfRange second read no_length =>
    rw [← isPauseLength_iff] at no_length
    rw [secondWord_of_token second]
    simp [SecondToken.nonempty second, read, no_length]
  | length second read fits =>
    rw [← isPauseLength_iff] at fits
    rw [secondWord_of_token second]
    simp [SecondToken.nonempty second, read, fits]

theorem request_sleepSeconds (line : String) : PauseRequest line (sleepSeconds line) := by
  by_cases found : secondWord line.toList = []
  · have none_second : ∀ word, ¬ SecondToken line.toList word := by
      intro word second
      apply SecondToken.nonempty second
      rw [← secondWord_of_token second, found]
    simpa [sleepSeconds, found] using PauseRequest.missing none_second
  · have second := token_secondWord found
    cases read : Decimal.read? (secondWord line.toList) with
    | none => simpa [sleepSeconds, found, read] using PauseRequest.notANumber second read
    | some seconds =>
      by_cases fits : IsLength seconds
      · have accepted := isPauseLength_iff.mpr fits
        simpa [sleepSeconds, found, read, accepted] using PauseRequest.length second read fits
      · have refused : isPauseLength seconds = false := by
          rw [← isPauseLength_iff] at fits
          simpa using fits
        simpa [sleepSeconds, found, read, refused] using
          PauseRequest.outOfRange second read fits

/-- Each line gets one answer. -/
theorem sleepSeconds_eq_iff {line : String} {answer : Except SleepError Double} :
    sleepSeconds line = answer ↔ PauseRequest line answer := by
  constructor
  · rintro rfl
    exact request_sleepSeconds line
  · exact sleepSeconds_of_request

end ConsoleBatch
