/-!
Files and folders.

A tree is a list of places, each the names that lead to it from the root, with what stands
there. The root is always a folder. Path texts are followed name by name, as a file system
follows them: only a folder can be gone through, and `..` leads back.
-/

namespace ConsoleBatch.Files

def separator : Char := '/'

def splitParts : List Char → List (List Char)
  | [] => [[]]
  | c :: rest =>
    if c = separator then [] :: splitParts rest
    else match splitParts rest with
      | [] => [[c]]
      | first :: more => (c :: first) :: more

def pathNames (text : String) : List String :=
  (splitParts text.toList).map String.ofList

def isAbsolute (text : String) : Bool :=
  text.toList.head? = some separator

abbrev Path := List String

inductive Entry where
  | folder
  | file (bytes : ByteArray)
  | locked
  /-- What can be read but is no file, such as a device. -/
  | stream (bytes : ByteArray)

def Entry.isFile : Entry → Bool
  | file _ | locked => true
  | folder | stream _ => false

def Entry.bytes? : Entry → Option ByteArray
  | file bytes | stream bytes => some bytes
  | folder | locked => none

structure Tree where
  entries : List (Path × Entry) := []
  current : Path := []

namespace Tree

def entry? (tree : Tree) (place : Path) : Option Entry :=
  if place = [] then some .folder else tree.entries.lookup place

def isFolderAt (tree : Tree) (place : Path) : Bool :=
  match tree.entry? place with
  | some .folder => true
  | _ => false

def maxNameBytes : Nat := 255

def maxPathBytes : Nat := 4095

/-- Whether something other than a folder itself or the one above can have a name. -/
def canBeName (name : String) : Bool :=
  name != "" && name != "." && name != ".." && name.utf8ByteSize ≤ maxNameBytes &&
    ! name.toList.contains '\x00'

def canBePath (text : String) : Bool :=
  text != "" && text.utf8ByteSize ≤ maxPathBytes

def follow (tree : Tree) (place : Path) (name : String) : Option Path :=
  if ! tree.isFolderAt place then none
  else if name = "" ∨ name = "." then some place
  else if name = ".." then some place.dropLast
  else if canBeName name ∧ (tree.entry? (place ++ [name])).isSome then some (place ++ [name])
  else none

def startOf (tree : Tree) (text : String) : Path :=
  if isAbsolute text then [] else tree.current

def place? (tree : Tree) (text : String) : Option Path :=
  if canBePath text then (pathNames text).foldlM tree.follow (tree.startOf text) else none

def find? (tree : Tree) (text : String) : Option Entry :=
  (tree.place? text).bind tree.entry?

def isFile (tree : Tree) (text : String) : Bool :=
  (tree.find? text).any Entry.isFile

def isFolder (tree : Tree) (text : String) : Bool :=
  match tree.find? text with
  | some .folder => true
  | _ => false

def fileNames (tree : Tree) (folder : Path) : List String :=
  tree.entries.filterMap fun (place, entry) =>
    if place.dropLast = folder && entry.isFile then place.getLast? else none

def put (tree : Tree) (place : Path) (entry : Entry) : Tree :=
  { tree with entries := (place, entry) :: tree.entries.filter fun (other, _) => other != place }

def ensureFolder (tree : Tree) (place : Path) : Tree :=
  if (tree.entry? place).isSome then tree else tree.put place .folder

def enter (tree : Tree) (place : Path) (name : String) : Tree × Path :=
  if name = "" ∨ name = "." then (tree, place)
  else if name = ".." then (tree, place.dropLast)
  else (tree.ensureFolder (place ++ [name]), place ++ [name])

def enterAll (tree : Tree) (start : Path) (names : List String) : Tree × Path :=
  names.foldl (fun (tree, place) name => tree.enter place name) (tree, start)

def putNamed (tree : Tree) (folder : Path) (name : String) (entry : Entry) : Tree :=
  if canBeName name && ! tree.isFolderAt (folder ++ [name]) then tree.put (folder ++ [name]) entry
  else tree

def putAt (tree : Tree) (text : String) (entry : Entry) : Tree :=
  let names := pathNames text
  let (tree, folder) := tree.enterAll (tree.startOf text) names.dropLast
  if canBePath text then tree.putNamed folder (names.getLastD "") entry else tree

def write (tree : Tree) (text : String) (bytes : ByteArray) : Tree :=
  tree.putAt text (.file bytes)

def makeFolder (tree : Tree) (text : String) : Tree :=
  (tree.enterAll (tree.startOf text) (pathNames text)).1

/-- The tree without what a path text leads to and all that is below it. The current folder
stays, empty. -/
def remove (tree : Tree) (text : String) : Tree :=
  match tree.place? text with
  | none => tree
  | some gone =>
    { tree with
      entries := tree.entries.filter fun (place, _) =>
        place = tree.current || ! gone.isPrefixOf place }

def empty (path : String) : Tree :=
  let (tree, place) := enterAll {} [] (pathNames path)
  { tree with current := place }

end Tree

end ConsoleBatch.Files
