import ConsoleBatch.Proofs.Casing
import ConsoleBatch.Proofs.Confinement
import ConsoleBatch.Proofs.Trees
import ConsoleBatch.Proofs.Trimming

/-! The names that a folder lists, and those that are located in it.

A listed name is located as itself if it is taken as it stands: nothing is trimmed off it, and it
has no backslash. What is located is listed, unless the extension is lowered in another way behind a
word than by itself. -/

namespace ConsoleBatch.Files

open Text

namespace Folder

variable {folder : Folder} {tree : Tree} {name requested : String}

theorem place_of_isFolder {text : String} (there : tree.isFolder text = true) :
    ∃ place, tree.place? text = some place ∧ tree.isFolderAt place = true := by
  unfold Tree.isFolder Tree.find? at there
  cases leads : tree.place? text with
  | none => simp [leads] at there
  | some place => exact ⟨place, rfl, by simpa [leads, Tree.isFolderAt] using there⟩

theorem list_of_place {parent : Path} (leads : tree.place? folder.dir = some parent)
    (there : tree.isFolderAt parent = true) :
    ∃ names, folder.list tree "" = .ok names ∧
      ∀ name, name ∈ names ↔ name ∈ tree.fileNames parent ∧ folder.hasExtension name = true := by
  refine ⟨((tree.fileNames parent).filter (folder.isListed "")).mergeSort (· ≤ ·), ?_, ?_⟩
  · rw [list, leads]
    simp only [there, if_true]
  · intro name
    simp [List.mem_mergeSort, isListed, lower, lowerAfter]

section There

variable {parent : Path}

theorem place_of_fileName (shape : tree.WellFormed) (leads : tree.place? folder.dir = some parent)
    (there : tree.isFolderAt parent = true) (fits : Tree.canBePath (folder.pathOf name) = true)
    (here : name ∈ tree.fileNames parent) :
    tree.place? (folder.pathOf name) = some (parent ++ [name]) := by
  obtain ⟨entry, named⟩ := shape.named_of_mem_fileNames here
  obtain ⟨found, at_place, _⟩ := shape.mem_fileNames_iff.mp here
  have dir_leads := (Tree.place?_eq_some_iff.mp leads).2
  exact (Tree.place?_child (folder.directChild_pathOf entry)).mpr
    ⟨fits, parent, dir_leads, there, named, by simp [at_place], rfl⟩

/-- The files that path texts lead to are those of the folder, as long as the texts can be. -/
theorem isFile_pathOf_iff (shape : tree.WellFormed) (leads : tree.place? folder.dir = some parent)
    (there : tree.isFolderAt parent = true) (entry : IsEntryName name) :
    tree.isFile (folder.pathOf name) = true ↔
      Tree.canBePath (folder.pathOf name) = true ∧ name ∈ tree.fileNames parent := by
  rw [Tree.isFile_iff]
  constructor
  · rintro ⟨place, found, leads_on, at_place, file⟩
    obtain ⟨fits, other, same, _, _, _, rfl⟩ :=
      (Tree.place?_child (folder.directChild_pathOf entry)).mp leads_on
    obtain rfl := Option.some.inj ((Tree.place?_eq_some_iff.mp leads).2.symm.trans same)
    exact ⟨fits, shape.mem_fileNames_iff.mpr ⟨found, at_place, file⟩⟩
  · rintro ⟨fits, here⟩
    obtain ⟨found, at_place, file⟩ := shape.mem_fileNames_iff.mp here
    exact ⟨_, found, place_of_fileName shape leads there fits here, at_place, file⟩

end There

theorem hasExtension_append (steady : lowerAfter true folder.extension.toList =
      lower folder.extension.toList) (name : String) :
    folder.hasExtension (name ++ folder.extension) = true := by
  rw [hasExtension, List.isSuffixOf_iff_suffix, String.toList_append, lower, lower]
  obtain ⟨lowered, split⟩ := lowerAfter_append false name.toList folder.extension.toList
  rw [split]
  cases name.toList.foldl wordOpenAfter false with
  | false => exact List.suffix_append _ _
  | true =>
    rw [steady]
    exact List.suffix_append _ _

theorem name_of_locate (located : folder.locate tree requested = .ok name) :
    isPlainName (trimmed requested) = true ∧
      (name = trimmed requested ∨ name = trimmed requested ++ folder.extension) := by
  obtain ⟨plain, resolved⟩ := resolveName_eq_ok_iff.mp (locate_eq_ok_iff.mp located).1
  refine ⟨plain, ?_⟩
  rw [resolved]
  split
  · exact .inl rfl
  · exact .inr rfl

theorem hasExtension_of_locate
    (steady : lowerAfter true folder.extension.toList = lower folder.extension.toList)
    (located : folder.locate tree requested = .ok name) : folder.hasExtension name = true := by
  obtain ⟨_, resolved⟩ := resolveName_eq_ok_iff.mp (locate_eq_ok_iff.mp located).1
  rw [resolved]
  split
  · assumption
  · exact hasExtension_append steady _

/-- A folder that is there is listed: its files that have the extension. A listed name that is taken
as it stands is located as itself, at its place in the folder, as long as its path text can be one;
any other listed name is not, but for one of which just the extension is trimmed off. What is
located is listed, if the extension has no separator and is lowered behind a word as it is by
itself. -/
theorem listing_matches_lookup (folder : Folder) (tree : Tree) (shape : tree.WellFormed)
    (there : tree.isFolder folder.dir = true) :
    ∃ parent names, tree.place? folder.dir = some parent ∧ folder.list tree "" = .ok names ∧
      (∀ name, name ∈ names ↔ folder.hasExtension name = true ∧
        ∃ entry, tree.entry? (parent ++ [name]) = some entry ∧ entry.isFile = true) ∧
      (∀ name ∈ names,
        (trimmed name = name → '\\' ∉ name.toList →
          Tree.canBePath (folder.pathOf name) = true →
            folder.locate tree name = .ok name ∧
              tree.place? (folder.pathOf name) = some (parent ++ [name])) ∧
        (folder.locate tree name = .ok name →
          (trimmed name = name ∨ trimmed name ++ folder.extension = name) ∧
            '\\' ∉ name.toList ∧ Tree.canBePath (folder.pathOf name) = true)) ∧
      (separator ∉ folder.extension.toList →
        lowerAfter true folder.extension.toList = lower folder.extension.toList →
          ∀ requested name, folder.locate tree requested = .ok name → name ∈ names) := by
  obtain ⟨parent, leads, inside⟩ := place_of_isFolder there
  obtain ⟨names, listed, members⟩ := list_of_place leads inside
  refine ⟨parent, names, leads, listed, ?_, ?_, ?_⟩
  · intro name
    rw [members, shape.mem_fileNames_iff, and_comm]
  · intro name member
    obtain ⟨here, extended⟩ := (members name).mp member
    have entry := (shape.named_of_mem_fileNames here).1
    have file_iff : tree.isFile (folder.pathOf name) = true ↔ _ :=
      isFile_pathOf_iff shape leads inside entry
    constructor
    · intro bare no_backslash fits
      refine ⟨locate_eq_ok_iff.mpr ⟨?_, file_iff.mpr ⟨fits, here⟩⟩,
        place_of_fileName shape leads inside fits here⟩
      rw [resolveName_eq_ok_iff, bare, if_pos extended]
      exact ⟨isPlainName_iff.mpr ⟨entry, no_backslash⟩, rfl⟩
    · intro located
      obtain ⟨plain, cut⟩ := name_of_locate located
      have fits := (file_iff.mp (locate_eq_ok_iff.mp located).2).1
      refine ⟨cut.imp Eq.symm Eq.symm, ?_, fits⟩
      intro backslash
      apply (isPlainName_iff.mp plain).2
      rw [toList_trimmed]
      exact mem_trim (by decide) backslash
  · intro plain steady requested name located
    obtain ⟨resolved, file⟩ := locate_eq_ok_iff.mp located
    have entry := entry_of_resolveName plain resolved
    have here := ((isFile_pathOf_iff shape leads inside entry).mp file).2
    exact (members name).mpr ⟨here, hasExtension_of_locate steady located⟩

def greekShelf : Tree :=
  (Tree.empty "/srv").write "/srv/ΟΣ.ας" "say hi\n".toUTF8

theorem listing_matches_lookup_greek :
    let folder : Folder := ⟨"/srv", ".ΑΣ"⟩
    greekShelf.WellFormed ∧ greekShelf.isFolder folder.dir = true ∧
      separator ∉ folder.extension.toList ∧
      lowerAfter true folder.extension.toList = lower folder.extension.toList ∧
      ∃ names, folder.list greekShelf "" = .ok names ∧ "ΟΣ.ας" ∈ names ∧
        folder.locate greekShelf "ΟΣ.ας" = .ok "ΟΣ.ας" := by
  intro folder
  have shape : greekShelf.WellFormed := (Tree.WellFormed.empty "/srv").write _ _
  have there : greekShelf.isFolder folder.dir = true := by decide +kernel
  have plain : separator ∉ folder.extension.toList := by decide
  have steady : lowerAfter true folder.extension.toList = lower folder.extension.toList := by
    decide +kernel
  obtain ⟨parent, names, _, listed, _, own, located⟩ :=
    listing_matches_lookup folder greekShelf shape there
  have padded : folder.locate greekShelf "\u3000ΟΣ.ας\n" = .ok "ΟΣ.ας" :=
    locate_eq_ok_iff.mpr ⟨resolveName_eq_ok_iff.mpr (by decide +kernel), by decide +kernel⟩
  have member := located plain steady _ _ padded
  have taken := (own _ member).1 (by decide +kernel) (by decide) (by decide +kernel)
  exact ⟨shape, there, plain, steady, names, listed, member, taken.1⟩

def oddShelf : Tree where
  entries :=
    [(["srv"], .folder), (["srv", "sub"], .folder)] ++
      [["srv", " a.batch"], ["srv", "a.batch"], ["srv", "a\\b.batch"], ["srv", "a.Σ"],
        ["srv", "sub", "c.batch"]].map fun place => (place, .file "say hi\n".toUTF8)

/-- A blank in front leads to another file, and a backslash to none. A file whose name has the
extension as it is, and one further down, are located and not listed. -/
theorem listed_apart_from_located :
    let usual : Folder := ⟨"/srv", ".batch"⟩
    let greek : Folder := ⟨"/srv", ".Σ"⟩
    let deep : Folder := ⟨"/srv", "/c.batch"⟩
    (∃ names, usual.list oddShelf "" = .ok names ∧ " a.batch" ∈ names ∧ "a\\b.batch" ∈ names) ∧
      (usual.locate oddShelf " a.batch").toOption = some "a.batch" ∧
      (usual.locate oddShelf "a\\b.batch").toOption = none ∧
      (greek.locate oddShelf "a").toOption = some "a.Σ" ∧
      (∃ names, greek.list oddShelf "" = .ok names ∧ "a.Σ" ∉ names) ∧
      (deep.locate oddShelf "sub").toOption = some "sub/c.batch" ∧
      ∃ names, deep.list oddShelf "" = .ok names ∧ "sub/c.batch" ∉ names := by
  intro usual greek deep
  have leads : oddShelf.place? "/srv" = some ["srv"] := by decide +kernel
  have there : oddShelf.isFolderAt ["srv"] = true := by decide +kernel
  obtain ⟨names, listed, members⟩ : ∃ names, usual.list oddShelf "" = .ok names ∧ _ :=
    list_of_place leads there
  obtain ⟨greek_names, greek_listed, greek_members⟩ :
    ∃ names, greek.list oddShelf "" = .ok names ∧ _ := list_of_place leads there
  obtain ⟨deep_names, deep_listed, deep_members⟩ :
    ∃ names, deep.list oddShelf "" = .ok names ∧ _ := list_of_place leads there
  refine ⟨⟨names, listed, ?_, ?_⟩, ?_, ?_, ?_, ⟨greek_names, greek_listed, ?_⟩, ?_,
    deep_names, deep_listed, ?_⟩
  · exact (members _).mpr (by decide +kernel)
  · exact (members _).mpr (by decide +kernel)
  · decide +kernel
  · decide +kernel
  · decide +kernel
  · exact mt (greek_members _).mp (by decide +kernel)
  · decide +kernel
  · exact mt (deep_members _).mp (by decide +kernel)

end Folder

end ConsoleBatch.Files
