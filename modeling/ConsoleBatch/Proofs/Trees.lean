import ConsoleBatch.Proofs.Members
import ConsoleBatch.Proofs.Paths

/-! The shape of a tree.

A place stands in a tree once, and a file has a name that can be one. Trees are made and changed so
that they keep this shape. -/

namespace ConsoleBatch.Files

theorem plain_of_mem_splitParts {text part : List Char} (listed : part ∈ splitParts text) :
    separator ∉ part := by
  induction text generalizing part with
  | nil =>
    rw [List.mem_singleton.mp listed]
    exact List.not_mem_nil
  | cons c rest ih =>
    rw [splitParts] at listed
    split at listed
    · rcases List.mem_cons.mp listed with rfl | later
      · exact List.not_mem_nil
      · exact ih later
    · rename_i other
      split at listed
      · rw [List.mem_singleton.mp listed, List.mem_singleton]
        exact Ne.symm other
      · rename_i first more parts
        rw [parts] at ih
        rcases List.mem_cons.mp listed with rfl | later
        · exact mt List.mem_cons.mp (not_or.mpr ⟨Ne.symm other, ih List.mem_cons_self⟩)
        · exact ih (List.mem_cons_of_mem _ later)

theorem plain_of_mem_pathNames {text name : String} (listed : name ∈ pathNames text) :
    separator ∉ name.toList := by
  obtain ⟨part, member, rfl⟩ := List.mem_map.mp listed
  rw [String.toList_ofList]
  exact plain_of_mem_splitParts member

def IsFilePlace (place : Path) : Prop :=
  ∃ parent name, place = parent ++ [name] ∧ separator ∉ name.toList ∧ Tree.canBeName name = true

theorem entryName_of_canBeName {name : String} (plain : separator ∉ name.toList)
    (named : Tree.canBeName name = true) : IsEntryName name := by
  simp only [Tree.canBeName, Bool.and_eq_true, bne_iff_ne] at named
  obtain ⟨⟨⟨⟨nonempty, not_here⟩, not_above⟩, _⟩, _⟩ := named
  exact ⟨nonempty, plain, not_here, not_above⟩

namespace Tree

theorem mem_fileNames {tree : Tree} {folder : Path} {name : String} :
    name ∈ tree.fileNames folder ↔
      ∃ entry, (folder ++ [name], entry) ∈ tree.entries ∧ entry.isFile = true := by
  simp only [fileNames, List.mem_filterMap]
  constructor
  · rintro ⟨⟨place, entry⟩, listed, named⟩
    split at named
    · rename_i here
      obtain ⟨parent, file⟩ := Bool.and_eq_true_iff.mp here
      obtain ⟨front, rfl⟩ := List.getLast?_eq_some_iff.mp named
      rw [List.dropLast_concat, decide_eq_true_eq] at parent
      subst parent
      exact ⟨entry, listed, file⟩
    · cases named
  · rintro ⟨entry, listed, file⟩
    exact ⟨(folder ++ [name], entry), listed, by simp [file]⟩

structure WellFormed (tree : Tree) : Prop where
  distinct : tree.entries.Pairwise fun first second => first.1 ≠ second.1
  placed : ∀ place entry, (place, entry) ∈ tree.entries → entry.isFile = true → IsFilePlace place

namespace WellFormed

variable {tree : Tree}

theorem mem_fileNames_iff (shape : tree.WellFormed) {folder : Path} {name : String} :
    name ∈ tree.fileNames folder ↔
      ∃ entry, tree.entry? (folder ++ [name]) = some entry ∧ entry.isFile = true := by
  have listed_iff : ∀ entry, tree.entry? (folder ++ [name]) = some entry ↔
      (folder ++ [name], entry) ∈ tree.entries := by
    intro entry
    rw [ entry?, if_neg (by simp)]
    exact Json.lookup_eq_some_iff shape.distinct
  rw [mem_fileNames]
  simp only [listed_iff]

theorem named_of_mem_fileNames (shape : tree.WellFormed) {folder : Path} {name : String}
    (listed : name ∈ tree.fileNames folder) : IsEntryName name ∧ canBeName name = true := by
  obtain ⟨entry, member, file⟩ := mem_fileNames.mp listed
  obtain ⟨parent, own, whole, plain, named⟩ := shape.placed _ entry member file
  obtain ⟨_, same⟩ := List.append_inj' whole rfl
  obtain rfl := (List.cons.inj same).1
  exact ⟨entryName_of_canBeName plain named, named⟩

theorem put (shape : tree.WellFormed) {place : Path} {entry : Entry}
    (placed : entry.isFile = true → IsFilePlace place) : (tree.put place entry).WellFormed := by
  constructor
  · refine List.pairwise_cons.mpr ⟨?_, shape.distinct.filter _⟩
    rintro ⟨other, kept⟩ member
    exact Ne.symm (bne_iff_ne.mp (List.mem_filter.mp member).2)
  · intro other kept member file
    rcases List.mem_cons.mp member with same | old
    · cases same
      exact placed file
    · exact shape.placed other kept (List.mem_of_mem_filter old) file

theorem ensureFolder (shape : tree.WellFormed) (place : Path) :
    (tree.ensureFolder place).WellFormed := by
  unfold Tree.ensureFolder
  split
  · exact shape
  · exact shape.put (fun file => by cases file)

theorem enterAll (shape : tree.WellFormed) (start : Path) (names : List String) :
    (tree.enterAll start names).1.WellFormed := by
  induction names generalizing tree start with
  | nil => exact shape
  | cons name rest ih =>
    have entered : (tree.enter start name).1.WellFormed := by
      unfold enter
      split
      · exact shape
      · split
        · exact shape
        · exact shape.ensureFolder _
    exact ih entered _

theorem putNamed (shape : tree.WellFormed) (folder : Path) {name : String}
    (plain : separator ∉ name.toList) (entry : Entry) :
    (tree.putNamed folder name entry).WellFormed := by
  unfold Tree.putNamed
  split
  · rename_i free
    have named := (Bool.and_eq_true_iff.mp free).1
    exact shape.put fun _ => ⟨folder, name, rfl, plain, named⟩
  · exact shape

theorem write (shape : tree.WellFormed) (text : String) (bytes : ByteArray) :
    (tree.write text bytes).WellFormed := by
  have entered := shape.enterAll (tree.startOf text) (pathNames text).dropLast
  unfold Tree.write putAt
  dsimp only
  split
  · apply entered.putNamed
    rcases List.eq_nil_or_concat (pathNames text) with none_named | ⟨front, last, names⟩
    · simp [none_named]
    · have listed : last ∈ pathNames text := by simp [names]
      simpa [names] using plain_of_mem_pathNames listed
  · exact entered

theorem makeFolder (shape : tree.WellFormed) (text : String) :
    (tree.makeFolder text).WellFormed :=
  shape.enterAll _ _

theorem remove (shape : tree.WellFormed) (text : String) : (tree.remove text).WellFormed := by
  unfold Tree.remove
  split
  · exact shape
  · constructor
    · exact shape.distinct.filter _
    · intro place entry member
      exact shape.placed place entry (List.mem_of_mem_filter member)

theorem empty (path : String) : (Tree.empty path).WellFormed := by
  have bare : ({} : Tree).WellFormed := ⟨List.Pairwise.nil, fun _ _ member => by cases member⟩
  have made := bare.enterAll [] (pathNames path)
  exact ⟨made.distinct, made.placed⟩

end WellFormed

end Tree

end ConsoleBatch.Files
