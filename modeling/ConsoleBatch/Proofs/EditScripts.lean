import ConsoleBatch.Lint.Suggestion
import Mathlib.Order.Bounds.Defs

/-! Edit scripts.

A script turns one word into another, one character at a time. The edit distance of two words is
the length of the shortest scripts between them: some script is as short, and no edit brings a word
nearer to another one by more than one. -/

namespace ConsoleBatch.Lint

@[simp] theorem editDistance_nil_left (right : List Char) :
    editDistance [] right = right.length := by
  cases right <;> rfl

@[simp] theorem distanceRow_nil_right (left : List Char) :
    distanceRow left [] = [left.length] := by
  induction left with
  | nil => rfl
  | cons first rest ih =>
    change extendRow first [] (distanceRow rest []) = _
    rw [ih]
    rfl

@[simp] theorem editDistance_nil_right (left : List Char) :
    editDistance left [] = left.length := by
  rw [editDistance, distanceRow_nil_right]
  rfl

theorem distanceRow_cons (left : List Char) (c : Char) (right : List Char) :
    distanceRow left (c :: right) = editDistance left (c :: right) :: distanceRow left right := by
  induction left with
  | nil => rfl
  | cons first rest ih =>
    rw [editDistance]
    change extendRow first (c :: right) (distanceRow rest (c :: right)) =
      (extendRow first (c :: right) (distanceRow rest (c :: right))).headD 0 ::
        extendRow first right (distanceRow rest right)
    rw [ih]
    rfl

theorem editDistance_cons_cons (first : Char) (left : List Char) (c : Char) (right : List Char) :
    editDistance (first :: left) (c :: right) =
      min (min (editDistance left (c :: right) + 1) (editDistance (first :: left) right + 1))
        (editDistance left right + replacementCost first c) := by
  rw [editDistance]
  change (extendRow first (c :: right) (distanceRow left (c :: right))).headD 0 = _
  rw [distanceRow_cons]
  rfl

theorem replacementCost_self (c : Char) : replacementCost c c = 0 :=
  if_pos rfl

theorem replacementCost_le (left right : Char) : replacementCost left right ≤ 1 := by
  unfold replacementCost
  split <;> omega

theorem editDistance_self (word : List Char) : editDistance word word = 0 := by
  induction word with
  | nil => rfl
  | cons c rest ih =>
    rw [editDistance_cons_cons, ih, replacementCost_self]
    simp

/-- An edit of one character: of the first one of a word, or of one behind it. -/
inductive Edit where
  | insert (c : Char)
  | delete
  | replace (c : Char)
  | behind (edit : Edit)
  deriving DecidableEq

def Edit.run? : Edit → List Char → Option (List Char)
  | .insert c, word => some (c :: word)
  | .delete, _ :: rest => some rest
  | .replace c, _ :: rest => some (c :: rest)
  | .behind edit, first :: rest => (edit.run? rest).map (first :: ·)
  | .delete, [] | .replace _, [] | .behind _, [] => none

def runAll? (script : List Edit) (word : List Char) : Option (List Char) :=
  script.foldlM (fun word edit => edit.run? word) word

@[simp] theorem runAll?_nil (word : List Char) : runAll? [] word = some word := rfl

@[simp] theorem runAll?_cons (edit : Edit) (script : List Edit) (word : List Char) :
    runAll? (edit :: script) word = (edit.run? word).bind (runAll? script) := rfl

@[simp] theorem runAll?_append (first second : List Edit) (word : List Char) :
    runAll? (first ++ second) word = (runAll? first word).bind (runAll? second) :=
  List.foldlM_append

@[simp] theorem runAll?_behind (script : List Edit) (first : Char) (word : List Char) :
    runAll? (script.map .behind) (first :: word) = (runAll? script word).map (first :: ·) := by
  induction script generalizing word with
  | nil => rfl
  | cons edit script ih =>
    rw [List.map_cons, runAll?_cons, runAll?_cons, Edit.run?]
    cases edit.run? word with
    | none => rfl
    | some next => exact ih next

theorem editDistance_insert (c : Char) (word right : List Char) :
    editDistance word right ≤ editDistance (c :: word) right + 1 := by
  induction right with
  | nil => simp; omega
  | cons goal right ih =>
    -- The other word gets longer by one too, which is at most one edit more.
    have longer : editDistance word (goal :: right) ≤ editDistance word right + 1 := by
      cases word with
      | nil => simp
      | cons first rest =>
        rw [editDistance_cons_cons]
        omega
    rw [editDistance_cons_cons]
    omega

theorem editDistance_delete (c : Char) (word right : List Char) :
    editDistance (c :: word) right ≤ editDistance word right + 1 := by
  cases right with
  | nil => simp
  | cons goal right =>
    rw [editDistance_cons_cons]
    omega

theorem editDistance_replace (c other : Char) (word right : List Char) :
    editDistance (c :: word) right ≤ editDistance (other :: word) right + 1 := by
  induction right with
  | nil => simp
  | cons goal right ih =>
    have cost := replacementCost_le c goal
    rw [editDistance_cons_cons, editDistance_cons_cons]
    omega

theorem editDistance_behind (c : Char) {word next : List Char}
    (near : ∀ right, editDistance word right ≤ editDistance next right + 1) (right : List Char) :
    editDistance (c :: word) right ≤ editDistance (c :: next) right + 1 := by
  induction right with
  | nil =>
    have lengths := near []
    simpa using lengths
  | cons goal right ih =>
    have whole := near (goal :: right)
    have tail := near right
    rw [editDistance_cons_cons, editDistance_cons_cons]
    omega

theorem editDistance_run {edit : Edit} {word next : List Char}
    (applied : edit.run? word = some next) (right : List Char) :
    editDistance word right ≤ editDistance next right + 1 := by
  induction edit generalizing word next right with
  | insert c =>
    cases applied
    exact editDistance_insert c word right
  | delete =>
    cases word with
    | nil => cases applied
    | cons first rest =>
      obtain rfl := Option.some.inj applied
      exact editDistance_delete first rest right
  | replace c =>
    cases word with
    | nil => cases applied
    | cons first rest =>
      obtain rfl := Option.some.inj applied
      exact editDistance_replace first c rest right
  | behind edit ih =>
    cases word with
    | nil => cases applied
    | cons first rest =>
      obtain ⟨tail, changed, rfl⟩ := Option.map_eq_some_iff.mp applied
      exact editDistance_behind first (ih changed) right

theorem editDistance_le_length {script : List Edit} {left right : List Char}
    (applied : runAll? script left = some right) : editDistance left right ≤ script.length := by
  induction script generalizing left with
  | nil =>
    cases applied
    rw [editDistance_self]
    exact Nat.le_refl _
  | cons edit script ih =>
    obtain ⟨next, first, rest⟩ := Option.bind_eq_some_iff.mp applied
    calc
      editDistance left right ≤ editDistance next right + 1 := editDistance_run first right
      _ ≤ script.length + 1 := Nat.add_le_add_right (ih rest) 1

/-- Words with the same first character need no edit of it, others need one. -/
theorem exists_script_diagonal {script : List Edit} {left right : List Char}
    (applied : runAll? script left = some right) (first goal : Char) :
    ∃ whole : List Edit, whole.length = script.length + replacementCost first goal ∧
      runAll? whole (first :: left) = some (goal :: right) := by
  by_cases same : first = goal
  · subst same
    refine ⟨script.map .behind, ?_, ?_⟩
    · simp [replacementCost]
    · simp [applied]
  · refine ⟨.replace goal :: script.map .behind, ?_, ?_⟩
    · simp [replacementCost, same]
    · simp [Edit.run?, applied]

theorem exists_script (left right : List Char) :
    ∃ script, script.length = editDistance left right ∧ runAll? script left = some right := by
  induction left generalizing right with
  | nil =>
    induction right with
    | nil => exact ⟨[], rfl, rfl⟩
    | cons goal right ih =>
      obtain ⟨script, short, applied⟩ := ih
      refine ⟨script ++ [.insert goal], ?_, ?_⟩
      · simpa using short
      · simp [applied, Edit.run?]
  | cons first left ih =>
    induction right with
    | nil =>
      obtain ⟨script, short, applied⟩ := ih []
      refine ⟨.delete :: script, ?_, applied⟩
      simpa using short
    | cons goal right ih_right =>
      obtain ⟨deleting, short_deleting, applied_deleting⟩ := ih (goal :: right)
      obtain ⟨inserting, short_inserting, applied_inserting⟩ := ih_right
      obtain ⟨both, short_both, applied_both⟩ := ih right
      obtain ⟨keeping, short_keeping, applied_keeping⟩ :=
        exists_script_diagonal applied_both first goal
      -- The distance is the least of three numbers, and each of them has a script.
      have least : editDistance (first :: left) (goal :: right) = deleting.length + 1 ∨
          editDistance (first :: left) (goal :: right) = inserting.length + 1 ∨
          editDistance (first :: left) (goal :: right) = keeping.length := by
        rw [editDistance_cons_cons, short_deleting, short_inserting, short_keeping, short_both]
        omega
      rcases least with shortest | shortest | shortest
      · exact ⟨.delete :: deleting, shortest.symm, applied_deleting⟩
      · refine ⟨inserting ++ [.insert goal], ?_, ?_⟩
        · simpa using shortest.symm
        · simp [applied_inserting, Edit.run?]
      · exact ⟨keeping, shortest.symm, applied_keeping⟩

theorem editDistance_eq_zero_iff {left right : List Char} :
    editDistance left right = 0 ↔ left = right := by
  constructor
  · intro none_needed
    obtain ⟨script, short, applied⟩ := exists_script left right
    rw [none_needed, List.length_eq_zero_iff] at short
    subst short
    exact Option.some.inj applied
  · rintro rfl
    exact editDistance_self left

/-- The edit distance is the length of the shortest scripts that turn one word into the other. -/
theorem editDistance_isLeast (left right : List Char) :
    IsLeast {count | ∃ script, script.length = count ∧ runAll? script left = some right}
      (editDistance left right) := by
  constructor
  · exact exists_script left right
  · rintro count ⟨script, rfl, applied⟩
    exact editDistance_le_length applied

example : editDistance "kitten".toList "sitting".toList = 3 := by decide

end ConsoleBatch.Lint
