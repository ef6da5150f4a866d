import ConsoleBatch.Files.Folder

/-! Path texts of what is right in a folder.

Such a text has the names of the folder's own path text and one name more. In any tree it leads to
where the folder's text leads, and by that name one step further. -/

namespace ConsoleBatch.Files

theorem splitParts_ne_nil (text : List Char) : splitParts text ≠ [] := by
  cases text with
  | nil => simp [splitParts]
  | cons c rest =>
    rw [splitParts]
    split
    · simp
    · split <;> simp

theorem splitParts_append (front back : List Char) :
    splitParts (front ++ separator :: back) = splitParts front ++ splitParts back := by
  induction front with
  | nil => simp [splitParts]
  | cons c rest ih =>
    rw [List.cons_append, splitParts, splitParts, ih]
    by_cases here : c = separator
    · simp [here]
    · rw [if_neg here, if_neg here]
      cases parts : splitParts rest with
      | nil => exact absurd parts (splitParts_ne_nil rest)
      | cons first more => rfl

theorem splitParts_single {name : List Char} (plain : separator ∉ name) :
    splitParts name = [name] := by
  induction name with
  | nil => rfl
  | cons c rest ih =>
    obtain ⟨here, later⟩ := not_or.mp (mt List.mem_cons.mpr plain)
    rw [splitParts, if_neg (Ne.symm here), ih later]

theorem pathNames_of_append {text : String} {front back : List Char}
    (split : text.toList = front ++ separator :: back) :
    pathNames text = (splitParts front ++ splitParts back).map String.ofList := by
  rw [pathNames, split, splitParts_append]

theorem pathNames_single {name : String} (plain : separator ∉ name.toList) :
    pathNames name = [name] := by
  rw [pathNames, splitParts_single plain, List.map_singleton, String.ofList_toList]

structure IsEntryName (name : String) : Prop where
  nonempty : name ≠ ""
  plain : separator ∉ name.toList
  not_here : name ≠ "."
  not_above : name ≠ ".."

theorem IsEntryName.append {name extension : String} (entry : IsEntryName name)
    (plain : separator ∉ extension.toList) : IsEntryName (name ++ extension) := by
  -- A text of dots is one of dots in front too, and so few dots are the two names left out.
  have no_dots : ∀ count ≤ 2, (name ++ extension).toList ≠ List.replicate count '.' := by
    intro count few joined
    rw [String.toList_append, List.append_eq_replicate_iff] at joined
    obtain ⟨lengths, dots, _⟩ := joined
    have short : name.toList.length = 0 ∨ name.toList.length = 1 ∨ name.toList.length = 2 := by
      omega
    rcases short with zero | one | two
    · exact entry.nonempty (String.toList_eq_nil_iff.mp (List.length_eq_zero_iff.mp zero))
    · rw [one] at dots
      exact entry.not_here (String.toList_inj.mp dots)
    · rw [two] at dots
      exact entry.not_above (String.toList_inj.mp dots)
  constructor
  · intro empty
    exact no_dots 0 (by omega) (congrArg String.toList empty)
  · rw [String.toList_append, List.mem_append]
    exact not_or.mpr ⟨entry.plain, plain⟩
  · intro here
    exact no_dots 1 (by omega) (congrArg String.toList here)
  · intro above
    exact no_dots 2 (by omega) (congrArg String.toList above)

/-- The path text is that of something right in the folder of the other one: it starts from the same
place and has the same names, but for an empty last one, and one more. -/
structure DirectChild (dir path name : String) : Prop where
  entry : IsEntryName name
  same_start : isAbsolute path = isAbsolute dir
  names : ∃ lead, pathNames path = lead ++ [name] ∧
    (pathNames dir = lead ∨ pathNames dir = lead ++ [""])

theorem isAbsolute_of_plain {name : String} (plain : separator ∉ name.toList) :
    isAbsolute name = false := by
  apply decide_eq_false
  intro first
  exact plain (List.mem_of_head? first)

/-- A name is put behind a separator, which is the last one of the folder's path text if that ends
with one. Behind an empty path text it stands alone. -/
theorem toList_joinPath (dir : String) {name : String} (plain : separator ∉ name.toList) :
    dir.toList = [] ∧ (joinPath dir name).toList = name.toList ∨
      ∃ front, (dir.toList = front ++ [separator] ∨ dir.toList = front ∧ front ≠ []) ∧
        (joinPath dir name).toList = front ++ separator :: name.toList := by
  have relative := isAbsolute_of_plain plain
  rw [joinPath, if_neg (by simp [relative])]
  rcases List.eq_nil_or_concat dir.toList with empty | ⟨front, last, whole⟩
  · exact .inl (by simp [empty])
  · refine .inr ?_
    by_cases ends : last = separator
    · rw [List.concat_eq_append, ends] at whole
      exact ⟨front, .inl whole, by simp [whole]⟩
    · refine ⟨dir.toList, .inr ⟨rfl, by simp [whole]⟩, ?_⟩
      simp [whole, ends]

theorem directChild_joinPath (dir : String) {name : String} (entry : IsEntryName name) :
    DirectChild dir (joinPath dir name) name := by
  have single := pathNames_single entry.plain
  rcases toList_joinPath dir entry.plain with ⟨empty, joined⟩ | ⟨front, whole, joined⟩
  · obtain rfl := String.toList_eq_nil_iff.mp empty
    rw [String.toList_inj.mp joined]
    exact ⟨entry, isAbsolute_of_plain entry.plain, [], single, .inr rfl⟩
  · have names :
        pathNames (joinPath dir name) = (splitParts front).map String.ofList ++ [name] := by
      rw [pathNames_of_append joined, List.map_append, ← pathNames, single]
    rcases whole with whole | ⟨rfl, some_dir⟩
    · refine ⟨entry, ?_, _, names, .inr ?_⟩
      · cases front <;> simp [isAbsolute, joined, whole]
      · rw [pathNames_of_append whole, List.map_append]
        rfl
    · refine ⟨entry, ?_, _, names, .inl rfl⟩
      rw [isAbsolute, isAbsolute, joined, List.head?_append]
      cases start : dir.toList with
      | nil => exact absurd start some_dir
      | cons c rest => rfl

namespace Tree

/-- Where the names of a path text lead, however long it is. -/
def lead? (tree : Tree) (text : String) : Option Path :=
  (pathNames text).foldlM tree.follow (tree.startOf text)

theorem place?_eq_some_iff {tree : Tree} {text : String} {place : Path} :
    tree.place? text = some place ↔ canBePath text = true ∧ tree.lead? text = some place := by
  rw [place?, lead?]
  split <;> simp [*]

theorem follow_empty (tree : Tree) (place : Path) :
    tree.follow place "" = if tree.isFolderAt place then some place else none := by
  cases here : tree.isFolderAt place <;> simp [follow, here]

/-- Only a folder can be gone through, so that nothing changes by an empty name before another
one. -/
theorem follow_empty_bind (tree : Tree) (place : Path) (name : String) :
    (tree.follow place "").bind (tree.follow · name) = tree.follow place name := by
  rw [follow_empty]
  cases here : tree.isFolderAt place <;> simp [follow, here]

theorem follow_eq_some_iff {tree : Tree} {place next : Path} {name : String}
    (entry : IsEntryName name) :
    tree.follow place name = some next ↔
      tree.isFolderAt place = true ∧ canBeName name = true ∧
        (tree.entry? (place ++ [name])).isSome = true ∧ next = place ++ [name] := by
  cases here : tree.isFolderAt place with
  | false => simp [follow, here]
  | true =>
    simp only [follow, here, Bool.not_true, Bool.false_eq_true, if_false, entry.nonempty,
      entry.not_here, entry.not_above, or_self]
    split
    · simp [*, eq_comm]
    · rename_i missing
      refine iff_of_false (fun found => by cases found) ?_
      rintro ⟨_, named, present, _⟩
      exact missing ⟨named, present⟩

theorem lead?_child {dir path name : String} (child : DirectChild dir path name) (tree : Tree) :
    tree.lead? path = (tree.lead? dir).bind (tree.follow · name) := by
  obtain ⟨lead, names, ends⟩ := child.names
  rw [lead?, lead?, startOf, child.same_start, ← startOf, names, List.foldlM_append]
  rcases ends with same | trailing
  · rw [same]
    exact Option.bind_congr fun place _ => by simp
  · rw [trailing, List.foldlM_append]
    change _ = Option.bind (Option.bind _ _) _
    rw [Option.bind_assoc]
    refine Option.bind_congr fun place _ => ?_
    simpa using (tree.follow_empty_bind place name).symm

theorem place?_child {dir path name : String} (child : DirectChild dir path name) {tree : Tree}
    {place : Path} :
    tree.place? path = some place ↔ canBePath path = true ∧ ∃ parent,
      tree.lead? dir = some parent ∧ tree.isFolderAt parent = true ∧ canBeName name = true ∧
        (tree.entry? (parent ++ [name])).isSome = true ∧ place = parent ++ [name] := by
  rw [place?_eq_some_iff, lead?_child child, Option.bind_eq_some_iff]
  simp only [follow_eq_some_iff child.entry]

/-- Where the path text of what is in a folder leads is in that folder, in any tree. -/
theorem parent_of_child {dir path name : String} (child : DirectChild dir path name) {tree : Tree}
    {place : Path} (leads : tree.place? path = some place) :
    ∃ parent, tree.lead? dir = some parent ∧ place = parent ++ [name] := by
  obtain ⟨_, parent, dir_leads, _, _, _, same⟩ := (place?_child child).mp leads
  exact ⟨parent, dir_leads, same⟩

theorem isFile_iff {tree : Tree} {text : String} :
    tree.isFile text = true ↔ ∃ place entry,
      tree.place? text = some place ∧ tree.entry? place = some entry ∧ entry.isFile = true := by
  simp only [isFile, find?, Option.any_eq_true, Option.bind_eq_some_iff]
  constructor
  · rintro ⟨entry, ⟨place, leads, found⟩, file⟩
    exact ⟨place, entry, leads, found, file⟩
  · rintro ⟨place, entry, leads, found, file⟩
    exact ⟨entry, ⟨place, leads, found⟩, file⟩

end Tree

end ConsoleBatch.Files
