import ConsoleBatch.Cli.Commands

/-!
The program.

What the arguments ask for is a function of the files that it looks at. Those are read first,
and then the transcript is played: its lines are printed, and its pauses are waited for.
-/

namespace ConsoleBatch.Cli

open Files (Folder Tree)

/-- The tree with what stands at a path, seen from the current directory. Files larger than
`limit` are not read; they stand in the tree as files that cannot be. -/
def look (limit : Nat) (files : Tree) (path : String) : IO Tree := do
  let place := (← IO.currentDir) / path
  if ← place.isDir then return files.makeFolder path
  if ! (← place.pathExists) then return files
  let about ← place.metadata
  if limit < about.byteSize.toNat then return files.putAt path .locked
  try
    let bytes ← IO.FS.readBinFile place
    return files.putAt path (if about.type == .file then .file bytes else .stream bytes)
  catch _ => return files.putAt path .locked

/-- The tree with the names of the files in a folder, but not what is in them. Links are left
out. -/
def lookInside (files : Tree) (dir : String) : IO Tree := do
  let place := (← IO.currentDir) / dir
  if ! (← place.isDir) then return files
  let mut seen := files.makeFolder dir
  for entry in ← place.readDir do
    if (← entry.path.symlinkMetadata).type == .file then
      seen := seen.putAt (Files.joinPath dir entry.fileName) .locked
  return seen

def maxConfigSize : Nat := Nat.pow 2 30

def configPaths (invocation : Invocation) : List String :=
  match invocation.config with
  | some path => [path]
  | none => Config.fileNames.map (Files.joinPath invocation.baseDir)

def lookAtBatches (folder : Folder) (files : Tree) : Command → IO Tree
  | .list _ => lookInside files folder.dir
  | .run file | .lint file _ _ =>
    match folder.resolveName file with
    | .ok name => look maxFileSize files (folder.pathOf name)
    | .error _ => return files

def filesFor (arguments : List String) : IO Tree := do
  let nothing := Tree.empty (← IO.currentDir).toString
  match parseArguments arguments with
  | none => return nothing
  | some invocation =>
    let files ← (configPaths invocation).foldlM (look maxConfigSize) nothing
    match loadConfig invocation files with
    | .error _ => return files
    | .ok config =>
      lookAtBatches (Folder.ofConfig invocation.baseDir config) files invocation.command

def longestWait : Nat := Nat.pow 10 9

def play : Act → IO Unit
  | .out line => do
    IO.println line
    (← IO.getStdout).flush
  | .err line => IO.eprintln line
  | .wait millis => do
    for _ in [0 : millis / longestWait] do
      IO.sleep (UInt32.ofNat longestWait)
    IO.sleep (UInt32.ofNat (millis % longestWait))

end ConsoleBatch.Cli

def main (arguments : List String) : IO UInt32 := do
  let files ← ConsoleBatch.Cli.filesFor arguments
  let transcript := ConsoleBatch.Cli.execute arguments files (.still 0)
  transcript.acts.forM ConsoleBatch.Cli.play
  return UInt32.ofNat transcript.code
