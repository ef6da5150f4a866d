import ConsoleBatch.Lint.Linter
import ConsoleBatch.Proofs.LowerRuns
import ConsoleBatch.Proofs.PauseLine
import ConsoleBatch.Proofs.Trimming

/-! Lines that start with an exclamation mark.

No other character has it as its lower case, so that a name that is compared with the blacklist
keeps it in front. To the checks such a line is never a command. -/

namespace ConsoleBatch

namespace Text

theorem eq_of_toLower {mark c : Char} (no_letter : mark.toNat < 97 ∨ 122 < mark.toNat)
    (small : c.toLower = mark) : c = mark := by
  unfold Char.toLower at small
  split at small
  · rename_i capital
    obtain ⟨least, most⟩ := capital
    have value : c.val + ('a'.val - 'A'.val) = mark.val := congrArg Char.val small
    have number : (c.val.toNat + 32) % 2 ^ 32 = mark.toNat := by
      simpa using congrArg UInt32.toNat value
    have from_first : 65 ≤ c.val.toNat := least
    have to_last : c.val.toNat ≤ 90 := most
    omega
  · exact small

theorem toNat_ofNat {code : Nat} (valid : code.isValidChar) : (Char.ofNat code).toNat = code := by
  unfold Char.ofNat
  rw [dif_pos valid]
  rfl

theorem ofNat_invalid {code : Nat} (invalid : ¬ code.isValidChar) :
    Char.ofNat code = Char.ofNat 0 := by
  rw [Char.ofNat, dif_neg invalid]
  rfl

/-- No other character has this one in its lower case, at the end of a word or elsewhere. -/
structure NoCapital (mark : Char) : Prop where
  no_letter : mark.toNat < 97 ∨ 122 < mark.toNat
  no_null : mark ≠ '\x00'
  no_dot : mark ≠ '\u0307'
  no_final : mark ≠ 'ς'
  outside : ∀ run ∈ lowerRuns,
    mark.toNat < run.lower ∨ run.lower + (run.last - run.first) < mark.toNat

instance (mark : Char) : Decidable (NoCapital mark) :=
  decidable_of_iff
    ((mark.toNat < 97 ∨ 122 < mark.toNat) ∧ mark ≠ '\x00' ∧ mark ≠ '\u0307' ∧ mark ≠ 'ς' ∧
      ∀ run ∈ lowerRuns,
        mark.toNat < run.lower ∨ run.lower + (run.last - run.first) < mark.toNat)
    ⟨fun ⟨letter, null, dot, final, runs⟩ => ⟨letter, null, dot, final, runs⟩,
      fun own => ⟨own.no_letter, own.no_null, own.no_dot, own.no_final, own.outside⟩⟩

theorem NoCapital.ne_of_lower? {mark : Char} (own : NoCapital mark) {run : LowerRun}
    (listed : run ∈ lowerRuns) {n code : Nat} (lowers : run.lower? n = some code) :
    Char.ofNat code ≠ mark := by
  have apart := own.outside run listed
  unfold LowerRun.lower? at lowers
  split at lowers
  · rintro rfl
    by_cases valid : code.isValidChar
    · rw [toNat_ofNat valid] at apart
      have value := Option.some.inj lowers
      omega
    · exact own.no_null (ofNat_invalid valid)
  · cases lowers

theorem NoCapital.eq_of_mem_lowerChar {mark c : Char} (own : NoCapital mark)
    (member : mark ∈ lowerChar c) : c = mark := by
  unfold lowerChar at member
  split at member
  · exact eq_of_toLower own.no_letter (List.mem_singleton.mp member).symm
  · split at member
    · rcases List.mem_cons.mp member with rfl | last
      · exact absurd own.no_letter (by decide)
      · exact absurd (List.mem_singleton.mp last) own.no_dot
    · split at member
      · rename_i code found
        obtain ⟨run, listed, lowers⟩ := List.exists_of_findSome?_eq_some found
        exact absurd (List.mem_singleton.mp member).symm (own.ne_of_lower? listed lowers)
      · exact (List.mem_singleton.mp member).symm

theorem lowerChar_ne_nil (c : Char) : lowerChar c ≠ [] := by
  unfold lowerChar
  split
  · simp
  · split
    · simp
    · split <;> simp

theorem head?_lowerEach_bang {text : List Char} :
    (lowerEach text).head? = some '!' ↔ text.head? = some '!' := by
  cases text with
  | nil => rfl
  | cons c rest =>
    have front : (lowerEach (c :: rest)).head? = (lowerChar c).head? := by
      obtain ⟨first, more, split⟩ := List.exists_cons_of_ne_nil (lowerChar_ne_nil c)
      rw [lowerEach, List.flatMap_cons, split]
      rfl
    rw [front, List.head?_cons]
    constructor
    · intro small
      have own : NoCapital '!' := by decide +kernel
      rw [own.eq_of_mem_lowerChar (List.mem_of_mem_head? small)]
    · intro bang
      cases bang
      decide

end Text

open Text

theorem starts_of_sleep {line : String} (sleeps : StartsWithSleep line) :
    line.toList.head? = some '!' := by
  obtain ⟨word, rest, split, small⟩ := sleeps
  cases word with
  | nil => cases small
  | cons c word =>
    have first : c.toLower = '!' := (List.cons.inj small).1
    rw [split, eq_of_toLower (.inl (by decide)) first]
    rfl

theorem head?_commandChars_bang {line : List Char} (bare : Bare line)
    (start : line.head? = some '!') : (commandChars line).head? = some '!' := by
  have front : trimStart line = line := trimStart_of_head bare.front
  unfold commandChars firstWord
  rw [trim_of_bare bare]
  cases line with
  | nil => cases start
  | cons c rest =>
    cases start
    have no_slash : withoutSlash ('!' :: rest) = '!' :: rest := rfl
    rw [no_slash, front]
    rfl

namespace Lint

theorem lineKind?_bang {line : String} (start : line.toList.head? = some '!') :
    lineKind? line = some (if isSleepDirective line then .sleep else .directive) := by
  unfold lineKind?
  cases text : line.toList with
  | nil => rw [text] at start; cases start
  | cons c rest =>
    rw [text] at start
    cases start
    rfl

theorem lineKind?_sleep {line : String} (sleeps : StartsWithSleep line) :
    lineKind? line = some .sleep := by
  rw [lineKind?_bang (starts_of_sleep sleeps), if_pos (isSleepDirective_iff.mpr sleeps)]

theorem lineKind?_command {line : String} :
    lineKind? line = some .command ↔
      line ≠ "" ∧ line.toList.head? ≠ some '#' ∧ line.toList.head? ≠ some '!' := by
  rw [Ne, ← String.toList_inj]
  unfold lineKind?
  split
  · rename_i nothing
    simp [nothing]
  · rename_i comment
    simp [comment]
  · rename_i bang
    simp only [bang]
    split <;> simp
  · rename_i no_text no_comment no_bang
    cases text : line.toList with
    | nil => exact absurd text no_text
    | cons c rest =>
      have other_than_comment : c ≠ '#' := by
        rintro rfl
        exact no_comment rest text
      have other_than_bang : c ≠ '!' := by
        rintro rfl
        exact no_bang rest text
      simp [other_than_comment, other_than_bang]

end Lint

end ConsoleBatch
