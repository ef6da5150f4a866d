import ConsoleBatch.Config.Basic
import ConsoleBatch.Error
import ConsoleBatch.Files.Tree
import ConsoleBatch.Text.Blank
import ConsoleBatch.Text.Lower
import ConsoleBatch.Text.Utf8

/-!
The folder that batch files are in.

A requested name has to be one plain name, so that no request leads out of the folder.
-/

namespace ConsoleBatch.Files

open Text

def joinPath (base rest : String) : String :=
  if isAbsolute rest then rest
  else if base.toList.getLast?.all (· = separator) then base ++ rest
  else base ++ separator.toString ++ rest

structure Folder where
  dir : String
  extension : String
  deriving DecidableEq

namespace Folder

def ofConfig (base : String) (config : Config) : Folder where
  dir := joinPath base config.settings.batchFolder
  extension := config.settings.fileExtension

def pathOf (folder : Folder) (fileName : String) : String :=
  joinPath folder.dir fileName

def isPlainName (name : String) : Bool :=
  name != "" && name != "." && name != ".." && ! name.toList.contains separator &&
    ! name.toList.contains '\\'

def hasExtension (folder : Folder) (name : String) : Bool :=
  (lower folder.extension.toList).isSuffixOf (lower name.toList)

def resolveName (folder : Folder) (requested : String) : Except LookupError String :=
  let name := trimmed requested
  if ! isPlainName name then .error (.invalidName name)
  else if folder.hasExtension name then .ok name
  else .ok (name ++ folder.extension)

def locate (folder : Folder) (tree : Tree) (requested : String) : Except LookupError String := do
  let fileName ← folder.resolveName requested
  if tree.isFile (folder.pathOf fileName) then .ok fileName else .error (.notFound fileName)

def isListed (folder : Folder) (start name : String) : Bool :=
  folder.hasExtension name && (lower start.toList).isPrefixOf (lower name.toList)

def list (folder : Folder) (tree : Tree) (start : String) : Except BatchError (List String) :=
  match tree.place? folder.dir with
  | some place =>
    if tree.isFolderAt place then
      .ok (((tree.fileNames place).filter (folder.isListed start)).mergeSort (· ≤ ·))
    else .error (.reading (.refused "not a directory"))
  | none => .error (.reading (.refused "no such directory"))

def readAt (tree : Tree) (path : String) : Except BatchError String :=
  match tree.find? path with
  | some (.file bytes) =>
    if maxFileSize < bytes.size then .error (.reading .tooLarge) else .ok (decodeLossy bytes)
  | some .folder | some (.stream _) => .error (.lookup (.notFound path))
  | some .locked => .error (.reading (.refused "permission denied"))
  | none => .error (.reading (.refused "no such file"))

def read (folder : Folder) (tree : Tree) (fileName : String) : Except BatchError String :=
  readAt tree (folder.pathOf fileName)

end Folder

end ConsoleBatch.Files
