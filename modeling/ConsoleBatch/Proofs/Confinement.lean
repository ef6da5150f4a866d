import ConsoleBatch.Proofs.Moves
import ConsoleBatch.Proofs.Paths

/-! No request leads out of the folder.

A requested name comes to the name of something right in the folder, or to nothing. What a request
reads later is under that name, whatever happens around it. -/

namespace ConsoleBatch

namespace Files

open Text

namespace Folder

theorem isPlainName_iff {name : String} :
    isPlainName name = true ↔ IsEntryName name ∧ '\\' ∉ name.toList := by
  simp only [isPlainName, Bool.and_eq_true, bne_iff_ne, ne_eq, Bool.not_eq_true',
    List.contains_eq_mem, decide_eq_false_iff_not]
  constructor
  · rintro ⟨⟨⟨⟨nonempty, not_here⟩, not_above⟩, plain⟩, no_backslash⟩
    exact ⟨⟨nonempty, plain, not_here, not_above⟩, no_backslash⟩
  · rintro ⟨⟨nonempty, plain, not_here, not_above⟩, no_backslash⟩
    exact ⟨⟨⟨⟨nonempty, not_here⟩, not_above⟩, plain⟩, no_backslash⟩

variable {folder : Folder} {tree : Tree} {requested name : String}

theorem resolveName_eq_ok_iff :
    folder.resolveName requested = .ok name ↔ isPlainName (trimmed requested) = true ∧
      name = if folder.hasExtension (trimmed requested) then trimmed requested
        else trimmed requested ++ folder.extension := by
  unfold resolveName
  by_cases plain : isPlainName (trimmed requested) = true
  · by_cases extended : folder.hasExtension (trimmed requested) = true
    · simp [plain, extended, eq_comm]
    · simp [plain, extended, eq_comm]
  · simp [plain]

theorem locate_eq_ok_iff :
    folder.locate tree requested = .ok name ↔
      folder.resolveName requested = .ok name ∧ tree.isFile (folder.pathOf name) = true := by
  unfold locate
  cases resolved : folder.resolveName requested with
  | error error => simp [bind, Except.bind]
  | ok fileName =>
    simp only [bind, Except.bind, Except.ok.injEq]
    constructor
    · intro located
      split at located
      · rename_i file
        obtain rfl := Except.ok.inj located
        exact ⟨rfl, file⟩
      · cases located
    · rintro ⟨rfl, file⟩
      rw [if_pos file]

theorem entry_of_resolveName (plain : separator ∉ folder.extension.toList)
    (resolved : folder.resolveName requested = .ok name) : IsEntryName name := by
  obtain ⟨plain_name, rfl⟩ := resolveName_eq_ok_iff.mp resolved
  obtain ⟨entry, _⟩ := isPlainName_iff.mp plain_name
  split
  · exact entry
  · exact entry.append plain

theorem directChild_pathOf (folder : Folder) (entry : IsEntryName name) :
    DirectChild folder.dir (folder.pathOf name) name :=
  directChild_joinPath folder.dir entry

/-- A located file is in the folder, under the name that is given. -/
theorem place_of_locate (plain : separator ∉ folder.extension.toList)
    (located : folder.locate tree requested = .ok name) :
    ∃ parent, tree.lead? folder.dir = some parent ∧
      tree.place? (folder.pathOf name) = some (parent ++ [name]) := by
  obtain ⟨resolved, file⟩ := locate_eq_ok_iff.mp located
  have child := folder.directChild_pathOf (entry_of_resolveName plain resolved)
  obtain ⟨place, _, leads, _, _⟩ := Tree.isFile_iff.mp file
  obtain ⟨parent, dir_leads, rfl⟩ := Tree.parent_of_child child leads
  exact ⟨parent, dir_leads, leads⟩

end Folder

end Files

namespace Run

open Files (DirectChild Folder IsEntryName Tree separator)
open Lint (Clock)

def Job.source? (folder : Folder) : Job → Option String
  | .read fileName _ => some (folder.pathOf fileName)
  | _ => none

/-- What a job comes to depends on no other file than the one it reads. -/
theorem runJob_of_source {folder : Folder} {job : Job} {files files' : Tree}
    (same : ∀ path, job.source? folder = some path → files.find? path = files'.find? path)
    (config : Config) (clock : Clock) :
    runJob config folder files clock job = runJob config folder files' clock job := by
  cases job with
  | read fileName known =>
    have found := same _ rfl
    simp only [runJob, Folder.read, Folder.readAt, found]
  | _ => rfl

def Job.Confined (job : Job) : Prop :=
  ∀ fileName known, job = .read fileName known → IsEntryName fileName

theorem Job.confined_of_reads {job : Job} (none_read : job.reads = 0) : job.Confined := by
  rintro fileName known rfl
  cases none_read

theorem Job.Confined.source {folder : Folder} {job : Job} (confined : job.Confined) {path : String}
    (reads : job.source? folder = some path) : ∃ name, DirectChild folder.dir path name := by
  cases job with
  | read fileName known =>
    cases reads
    exact ⟨fileName, folder.directChild_pathOf (confined fileName known rfl)⟩
  | _ => cases reads

theorem reads_of_precedes {later earlier : Job} (precedes : later.Precedes earlier) :
    later.reads = 0 := by
  rcases precedes with fewer | ⟨same, lighter⟩
  · cases earlier with
    | read fileName known => exact Nat.lt_one_iff.mp fewer
    | _ => cases fewer
  · cases earlier with
    | read fileName known => cases lighter
    | _ => exact same

theorem confined_opening {session : Session}
    (plain : separator ∉ session.folder.extension.toList) (opening : Opening) {job : Job}
    (next : (opening.effect session).next = some job) : job.Confined := by
  cases opening with
  | request name =>
    cases located : session.folder.locate session.files name with
    | error error =>
      rw [request_refused located] at next
      cases error <;> cases next
    | ok fileName =>
      rw [request_accepted located] at next
      obtain rfl := Option.some.inj next
      rintro _ _ ⟨rfl, rfl⟩
      exact Folder.entry_of_resolveName plain (Folder.locate_eq_ok_iff.mp located).1
  | start batch => exact Job.confined_of_reads (drive_next next).1

namespace Session

def Confined (session : Session) : Prop :=
  ∀ task ∈ session.queue, task.job.Confined

theorem confined_record {session : Session} (confined : session.Confined) (ticket : Ticket)
    {effect : Effect} (next : ∀ job, effect.next = some job → job.Confined) :
    (session.record ticket effect).Confined := by
  intro task member
  rcases List.mem_append.mp member with waiting | new
  · exact confined task waiting
  · obtain ⟨job, follows, rfl⟩ := List.mem_map.mp new
    exact next job (Option.mem_toList.mp follows)

theorem confined_play {session : Session} (plain : separator ∉ session.folder.extension.toList)
    (confined : session.Confined) (move : Move) : (session.play move).Confined := by
  cases move with
  | enroll requester opening =>
    rw [play_enroll]
    exact confined_record confined _ fun job next => confined_opening plain opening next
  | run index clock =>
    cases found : session.queue[index]? with
    | none => rwa [play_run_none clock found]
    | some task =>
      rw [play_run_some clock found]
      apply confined_record
      · intro other member
        exact confined other (List.mem_of_mem_eraseIdx member)
      · intro job next
        exact Job.confined_of_reads (reads_of_precedes (runJob_next next))
  | setRegistry names => exact confined
  | setFiles files => exact confined

theorem waiting_of_turn? {session : Session} {number : Nat} {move : Move} {turn : Turn}
    (taken : session.turn? number move = some turn) :
    ∃ task ∈ session.queue, turn.job = task.job := by
  cases move with
  | run index clock =>
    simp only [turn?] at taken
    split at taken
    · rename_i task found
      split at taken
      · obtain rfl := Option.some.inj taken
        exact ⟨task, List.mem_of_getElem? found, rfl⟩
      · cases taken
    · cases taken
  | _ => cases taken

theorem confined_turns {session : Session} (plain : separator ∉ session.folder.extension.toList)
    (confined : session.Confined) {number : Nat} {moves : List Move} {turn : Turn}
    (taken : turn ∈ session.turns number moves) : turn.job.Confined := by
  induction moves generalizing session with
  | nil => cases taken
  | cons move rest ih =>
    rcases List.mem_append.mp taken with now | later
    · obtain ⟨task, waiting, same⟩ := waiting_of_turn? (Option.mem_toList.mp now)
      rw [same]
      exact confined task waiting
    · refine ih ?_ (confined_play plain confined move) later
      rwa [folder_play]

/-- A requested name is refused or comes to a name that something right in the folder can have, and
what is located is in the folder under that name. In any session, whatever is requested, changed and
run in whatever order, a request reads nothing but what is right in the folder: what it comes to
depends on nothing else in the tree. -/
theorem requests_stay_in_folder (folder : Folder)
    (plain : separator ∉ folder.extension.toList) :
    (∀ requested, (∃ error, folder.resolveName requested = .error error) ∨
      ∃ name, folder.resolveName requested = .ok name ∧ IsEntryName name) ∧
    (∀ tree requested name, folder.locate tree requested = .ok name →
      DirectChild folder.dir (folder.pathOf name) name ∧
        ∃ parent, tree.lead? folder.dir = some parent ∧
          tree.place? (folder.pathOf name) = some (parent ++ [name])) ∧
    ∀ (config : Config) (files : Tree) (registry : List String) (number : Nat) (moves : List Move),
      ∀ turn ∈ (idle config folder files registry).turns number moves,
        (∀ path, turn.job.source? folder = some path →
          ∃ name, DirectChild folder.dir path name ∧
            ∀ place, turn.files.place? path = some place →
              ∃ parent, turn.files.lead? folder.dir = some parent ∧ place = parent ++ [name]) ∧
          ∀ files' : Tree, (∀ path name, DirectChild folder.dir path name →
              files'.find? path = turn.files.find? path) →
            Turn.effect config folder { turn with files := files' } =
              turn.effect config folder := by
  refine ⟨?_, ?_, ?_⟩
  · intro requested
    cases resolved : folder.resolveName requested with
    | error error => exact .inl ⟨error, rfl⟩
    | ok name => exact .inr ⟨name, rfl, Folder.entry_of_resolveName plain resolved⟩
  · intro tree requested name located
    have resolved := (Folder.locate_eq_ok_iff.mp located).1
    exact ⟨folder.directChild_pathOf (Folder.entry_of_resolveName plain resolved),
      Folder.place_of_locate plain located⟩
  · intro config files registry number moves turn taken
    have idle_confined : (idle config folder files registry).Confined := by
      intro task waiting
      cases waiting
    have confined := confined_turns plain idle_confined taken
    constructor
    · intro path reads
      obtain ⟨name, child⟩ := confined.source reads
      exact ⟨name, child, fun place leads => Tree.parent_of_child child leads⟩
    · intro files' same
      apply runJob_of_source
      intro path reads
      obtain ⟨name, child⟩ := confined.source reads
      exact same path name child

def dottedShelf : Tree where
  entries :=
    [(["srv"], .folder), (["srv", "batches"], .folder),
      (["srv", "batches", "..batch"], .file "say hi\n".toUTF8)]
  current := ["srv"]

theorem requests_stay_in_folder_dotted :
    let folder : Folder := ⟨"batches//", ".batch"⟩
    let moves : List Move := [.enroll "first" (.request "\u2003..batch\n"),
      .enroll "second" (.request "../srv/batches/..batch"), .run 0 (.still 0)]
    separator ∉ folder.extension.toList ∧
      (∃ name, folder.resolveName "\u2003..batch\n" = .ok name ∧ IsEntryName name) ∧
      DirectChild "batches//" "batches//..batch" "..batch" ∧
      ∃ turn ∈ (idle {} folder dottedShelf []).turns 0 moves,
        turn.job.source? folder = some "batches//..batch" ∧
          ∃ name, DirectChild folder.dir "batches//..batch" name := by
  intro folder moves
  have plain : separator ∉ folder.extension.toList := by decide
  have resolved : folder.resolveName "\u2003..batch\n" = .ok "..batch" :=
    Folder.resolveName_eq_ok_iff.mpr (by decide +kernel)
  have located : folder.locate dottedShelf "\u2003..batch\n" = .ok "..batch" :=
    Folder.locate_eq_ok_iff.mpr ⟨resolved, by decide +kernel⟩
  have sources : ((idle {} folder dottedShelf []).turns 0 moves).map
      (fun turn => turn.job.source? folder) = [some "batches//..batch"] := by decide +kernel
  have listed : some "batches//..batch" ∈ ((idle {} folder dottedShelf []).turns 0 moves).map
      fun turn => turn.job.source? folder := by
    rw [sources]
    exact List.mem_singleton_self _
  obtain ⟨turn, taken, reads⟩ := List.mem_map.mp listed
  obtain ⟨resolves, locates, sessions⟩ := requests_stay_in_folder folder plain
  have child := (locates _ _ _ located).1
  have path : folder.pathOf "..batch" = "batches//..batch" := by decide +kernel
  rw [path] at child
  refine ⟨plain, ?_, child, turn, taken, reads, ?_⟩
  · rcases resolves "\u2003..batch\n" with ⟨error, refused⟩ | found
    · rw [resolved] at refused
      cases refused
    · exact found
  · obtain ⟨name, child, _⟩ := (sessions {} dottedShelf [] 0 moves turn taken).1 _ reads
    exact ⟨name, child⟩

end Session

end Run

end ConsoleBatch
