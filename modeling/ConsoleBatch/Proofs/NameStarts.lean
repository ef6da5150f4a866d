import ConsoleBatch.Proofs.Listing

/-! The names that a folder lists for the start of a name.

They are those of all its listed names that start alike in lower case. The start is lowered as a text
of its own. Its name starts with just that in lower case, unless the start ends within a word, behind
a capital sigma that is taken for the end of the word. -/

namespace ConsoleBatch

namespace Text

/-- A word in front of `back` does not go on there, but does with `rest` behind. -/
def GoesOn (rest back : List Char) : Prop :=
  leadsToCased back = false ∧ leadsToCased (back ++ rest) = true

/-- The start of a text ends within a word of it: a capital sigma ends the word in the start, but not
in the text. -/
def SplitsWord (start rest : List Char) : Prop :=
  SigmaBehind (GoesOn rest) false start

theorem leadsToCased_append {text : List Char} (leads : leadsToCased text = true)
    (rest : List Char) : leadsToCased (text ++ rest) = true := by
  unfold leadsToCased at leads ⊢
  rw [List.dropWhile_append]
  cases kept : text.dropWhile isCaseIgnorable with
  | nil => simp [kept] at leads
  | cons c others =>
    rw [kept] at leads
    exact leads

theorem lowerWithin_append {wordOpen : Bool} {c : Char} {back rest : List Char}
    (steady : ¬ (c = 'Σ' ∧ wordOpen = true ∧ GoesOn rest back)) :
    lowerWithin (wordOpen && ! leadsToCased (back ++ rest)) c =
      lowerWithin (wordOpen && ! leadsToCased back) c := by
  by_cases sigma : c = 'Σ'
  · cases wordOpen with
    | false => rfl
    | true =>
      cases leads : leadsToCased back with
      | true => rw [leadsToCased_append leads]
      | false =>
        have ends : ¬ leadsToCased (back ++ rest) = true := fun onward =>
          steady ⟨sigma, rfl, leads, onward⟩
        rw [Bool.not_eq_true] at ends
        rw [ends]
  · rw [lowerWithin, lowerWithin, if_neg sigma, if_neg sigma]

theorem lowerAfter_prefix_iff (wordOpen : Bool) (start rest : List Char) :
    lowerAfter wordOpen start <+: lowerAfter wordOpen (start ++ rest) ↔
      ¬ SigmaBehind (GoesOn rest) wordOpen start := by
  induction start generalizing wordOpen with
  | nil => exact iff_of_true List.nil_prefix not_sigmaBehind_nil
  | cons c start ih =>
    rw [sigmaBehind_cons, not_or, ← ih, List.cons_append, lowerAfter_cons, lowerAfter_cons]
    by_cases splits : c = 'Σ' ∧ wordOpen = true ∧ GoesOn rest start
    · refine iff_of_false ?_ fun both => both.1 splits
      -- The sigma is in its final form on the left and not on the right.
      obtain ⟨rfl, rfl, last, onward⟩ := splits
      rw [last, onward]
      simp [lowerWithin]
    · rw [lowerWithin_append splits, List.prefix_append_right_inj]
      exact (and_iff_right splits).symm

/-- In lower case, a text starts like its start, unless that splits a word. -/
theorem lower_prefix_iff {start rest : List Char} :
    lower start <+: lower (start ++ rest) ↔ ¬ SplitsWord start rest :=
  lowerAfter_prefix_iff false start rest

end Text

namespace Files.Folder

open Text

def startsAlike (start name : String) : Bool :=
  (lower start.toList).isPrefixOf (lower name.toList)

theorem startsAlike_append {start rest : String} :
    startsAlike start (start ++ rest) = true ↔ ¬ SplitsWord start.toList rest.toList := by
  rw [startsAlike, List.isPrefixOf_iff_prefix, String.toList_append, lower_prefix_iff]

theorem sorted_sort (names : List String) : (names.mergeSort (· ≤ ·)).Pairwise (· ≤ ·) := by
  have sorted := @List.pairwise_mergeSort String (fun one other => decide (one ≤ other))
    (by simpa using fun _ _ _ => String.le_trans) (by simpa using String.le_total) names
  simpa using sorted

theorem sort_filter (keep : String → Bool) (names : List String) :
    (names.filter keep).mergeSort (· ≤ ·) = (names.mergeSort (· ≤ ·)).filter keep := by
  have same : ((names.filter keep).mergeSort (· ≤ ·)).Perm
      ((names.mergeSort (· ≤ ·)).filter keep) :=
    (List.mergeSort_perm _ _).trans ((List.mergeSort_perm _ _).filter keep).symm
  exact same.eq_of_pairwise (fun _ _ _ _ => String.le_antisymm) (sorted_sort _)
    ((sorted_sort names).filter keep)

theorem filter_isListed (folder : Folder) (start : String) (names : List String) :
    names.filter (folder.isListed start) =
      (names.filter (folder.isListed "")).filter (startsAlike start) := by
  rw [List.filter_filter]
  apply List.filter_congr
  intro name _
  simp [isListed, startsAlike, lower, lowerAfter, Bool.and_comm]

/-- What is listed for a start are those of all listed names that start alike. -/
theorem list_eq_filter (folder : Folder) (tree : Tree) (start : String) :
    folder.list tree start =
      (folder.list tree "").map fun names => names.filter (startsAlike start) := by
  unfold list
  cases tree.place? folder.dir with
  | none => rfl
  | some place =>
    dsimp only
    split
    · rw [filter_isListed, sort_filter]
      rfl
    · rfl

/-- For the start of a name, a folder lists some of the names that it lists without one, in the same
order. A listed name is among them for each of its starts, but for those that split a word. -/
theorem listed_under_starts (folder : Folder) (tree : Tree) (start : String) :
    (∀ error, folder.list tree start = .error error ↔ folder.list tree "" = .error error) ∧
      ∀ names, folder.list tree "" = .ok names →
        ∃ found, folder.list tree start = .ok found ∧ found.Sublist names ∧
          ∀ rest, start ++ rest ∈ names →
            (start ++ rest ∈ found ↔ ¬ SplitsWord start.toList rest.toList) := by
  rw [list_eq_filter folder tree start]
  constructor
  · intro error
    cases folder.list tree "" <;> simp [Except.map]
  · intro names listed
    refine ⟨names.filter (startsAlike start), ?_, List.filter_sublist, ?_⟩
    · rw [listed]
      rfl
    · intro rest member
      rw [List.mem_filter, startsAlike_append]
      exact and_iff_right member

def sigmaShelf : Tree where
  entries := [(["srv"], .folder), (["srv", "ΟΔΟΣ.batch"], .file "say hi\n".toUTF8),
    (["srv", "ΣΑΣ 7.batch"], .file "say bye\n".toUTF8)]

theorem listed_under_starts_apart :
    let folder : Folder := ⟨"/srv", ".batch"⟩
    ∃ names found, folder.list sigmaShelf "" = .ok names ∧ "ΣΑΣ 7.batch" ∈ names ∧
      folder.list sigmaShelf "ΣΑΣ" = .ok found ∧ found.Sublist names ∧ "ΣΑΣ 7.batch" ∈ found := by
  intro folder
  have leads : sigmaShelf.place? "/srv" = some ["srv"] := by decide +kernel
  obtain ⟨names, listed, members⟩ : ∃ names, folder.list sigmaShelf "" = .ok names ∧ _ :=
    list_of_place leads (by decide +kernel)
  have member : "ΣΑΣ 7.batch" ∈ names := (members _).mpr (by decide +kernel)
  obtain ⟨found, listed', among, starts⟩ :=
    (listed_under_starts folder sigmaShelf "ΣΑΣ").2 names listed
  have whole : ¬ SplitsWord "ΣΑΣ".toList " 7.batch".toList :=
    lower_prefix_iff.mp (by decide +kernel)
  exact ⟨names, found, listed, member, listed', among, (starts " 7.batch" member).mpr whole⟩

/-- A name is listed for the start of its first word, and for the word with more behind it, but not
for the word itself. -/
theorem word_hides_its_file :
    let folder : Folder := ⟨"/srv", ".batch"⟩
    ∃ names, folder.list sigmaShelf "" = .ok names ∧ "ΟΔΟΣ.batch" ∈ names ∧
      (∃ found, folder.list sigmaShelf "ΟΔΟ" = .ok found ∧ "ΟΔΟΣ.batch" ∈ found) ∧
      (∃ found, folder.list sigmaShelf "ΟΔΟΣ" = .ok found ∧ "ΟΔΟΣ.batch" ∉ found) ∧
      ∃ found, folder.list sigmaShelf "ΟΔΟΣ.b" = .ok found ∧ "ΟΔΟΣ.batch" ∈ found := by
  intro folder
  have leads : sigmaShelf.place? "/srv" = some ["srv"] := by decide +kernel
  obtain ⟨names, listed, members⟩ : ∃ names, folder.list sigmaShelf "" = .ok names ∧ _ :=
    list_of_place leads (by decide +kernel)
  have member : "ΟΔΟΣ.batch" ∈ names := (members _).mpr (by decide +kernel)
  have narrowed : ∀ start, folder.list sigmaShelf start =
      .ok (names.filter (startsAlike start)) := by
    intro start
    rw [list_eq_filter, listed]
    rfl
  refine ⟨names, listed, member, ⟨_, narrowed _, ?_⟩, ⟨_, narrowed _, ?_⟩, _, narrowed _, ?_⟩
  · exact List.mem_filter.mpr ⟨member, by decide +kernel⟩
  · intro kept
    exact absurd (List.mem_filter.mp kept).2 (by decide +kernel)
  · exact List.mem_filter.mpr ⟨member, by decide +kernel⟩

end Files.Folder

end ConsoleBatch
