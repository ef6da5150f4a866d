import ConsoleBatch.Text.LowerRuns

/-! The table of lower cases.

It has no lower case below the small letters, and none that has a lower case of its own. -/

namespace ConsoleBatch.Text

theorem lowerRuns_letters : ∀ run ∈ lowerRuns, 97 ≤ run.lower := by
  decide +kernel

theorem letter_of_lower? {run : LowerRun} (listed : run ∈ lowerRuns) {n code : Nat}
    (lowers : run.lower? n = some code) : 97 ≤ code := by
  have least := lowerRuns_letters run listed
  unfold LowerRun.lower? at lowers
  split at lowers
  · have value := Option.some.inj lowers
    omega
  · cases lowers

/-- No lower case of one run is listed in another. Where both runs take every other code point, one
may lie within the other. -/
def LowerRun.misses (run other : LowerRun) : Bool :=
  Nat.blt (run.lower + (run.last - run.first)) other.first || Nat.blt other.last run.lower ||
    Nat.beq other.stride 2 && (Nat.beq run.stride 2 || Nat.beq run.first run.last) &&
      ! Nat.beq (run.lower % 2) (other.first % 2)

def dottedCapital : LowerRun := ⟨0x130, 0x130, 2, 0x69⟩

theorem lowerRuns_miss :
    (lowerRuns.all fun run => (dottedCapital :: lowerRuns).all run.misses) = true := by
  decide +kernel

theorem lower?_of_misses {run other : LowerRun} (apart : run.misses other = true) {n code : Nat}
    (lowers : run.lower? n = some code) : other.lower? code = none := by
  simp only [LowerRun.misses, Bool.or_eq_true, Bool.and_eq_true, Bool.not_eq_true', Nat.blt_eq,
    ← Bool.not_eq_true, Nat.beq_eq] at apart
  unfold LowerRun.lower? at lowers ⊢
  split at lowers
  · rename_i listed
    obtain ⟨first, last, even⟩ := listed
    have value := Option.some.inj lowers
    rw [if_neg]
    rintro ⟨from_first, to_last, even'⟩
    rcases apart with (below | above) | ⟨⟨two, two' | single⟩, parity⟩
    · omega
    · omega
    · rw [two'] at even
      rw [two] at even'
      omega
    · rw [two] at even'
      omega
  · cases lowers

end ConsoleBatch.Text
