import ConsoleBatch.Config.Load
import ConsoleBatch.Files.Folder

/-!
Configuration files.
-/

namespace ConsoleBatch.Config

open Files (Tree joinPath)

def fileNames : List String :=
  ["cmdbatch.jsonc", ".cmdbatch.jsonc", "cmdbatch.json"]

def discover (files : Tree) (dir : String) : Option String :=
  (fileNames.map (joinPath dir)).find? files.isFile

def loadFile (files : Tree) (path : String) : Except LoadError Config :=
  match ((files.find? path).bind Files.Entry.bytes?).bind Text.decodeStrict? with
  | some text => load text
  | none => .error .unreadable

end ConsoleBatch.Config
