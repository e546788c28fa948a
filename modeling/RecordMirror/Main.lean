import RecordMirror.Command.Run
/-!
The program: reads from the disk what a command may look at, runs the command on it, prints what it
says, and writes to the disk what it changed.
-/

namespace RecordMirror.Program

/-- The name of a place on the disk. -/
def placeText (place : List String) : String :=
  "/" ++ "/".intercalate place

/-- Whether the contents of a file matter to a command that did not name the file. -/
def isRead (place : List String) : Bool :=
  let name := place.getLastD ""
  name == Config.fileName || Build.schemaSuffix.toList.isSuffixOf name.toList

/-- How much of what lies below a place is looked at. -/
inductive Below
  | nothing
  | names
  | everything
deriving DecidableEq

/-- Adds what stands at a place of the disk, and what lies below it. -/
partial def addTree (files : FileTree) (place : List String) (named : Bool) (below : Below) :
    IO FileTree := do
  let path := (← IO.currentDir) / placeText place
  if ← path.isDir then
    let mut files := files.put place .directory
    if below ≠ .nothing then
      for entry in ← path.readDir do
        files ← addTree files (place ++ [entry.fileName]) false
          (if below = .everything then .everything else .nothing)
    return files
  else if ← path.pathExists then
    let bytes ← if named || isRead place then IO.FS.readBinFile path else pure .empty
    return files.put place (.file bytes.toList)
  else return files

/-- Adds the directories that lead to a place of the disk, as far as they are there. -/
def addParents (files : FileTree) (place : List String) : IO FileTree := do
  let mut files := files
  for count in List.range place.length do
    let parent := place.take count
    let path := (← IO.currentDir) / placeText parent
    if (files.get? parent).isNone then
      if ← path.isDir then files := files.put parent .directory
      else if ← path.pathExists then files := files.put parent (.file [])
  return files

/-- Adds what a path names, what leads to it, and what lies below it. -/
def addPath (files : FileTree) (path : Path) (below : Below) : IO FileTree := do
  let mut files := files
  -- a path with steps up leads through places that are not part of where it ends
  for count in List.range path.parts.length do
    let before := files.resolve (path.take count)
    files ← addParents files (before.parts ++ [""])
  let place := (files.resolve path).parts
  addTree (← addParents files place) place true below

/-- The paths that an invocation names, and how much below them it looks at. -/
def pathsOf : Command.Invocation → List (Path × Below)
  | .init directory => [(Path.ofText directory, .names)]
  | .check directory => [(Path.ofText directory, .everything)]
  | .generate directory => [(Path.ofText directory, .everything)]
  | .plan schema _ _ output =>
    (schema :: output.toList).map fun text => (Path.ofText text, .nothing)
  | .help _ => []

/-- The directory that an invocation writes modules to. -/
def buildPath? (files : FileTree) : Command.Invocation → Option Path
  | .generate directory =>
    match Project.load files (Path.ofText directory) with
    | .ok project => some (Project.buildPath project.directory project.config)
    | .error _ => none
  | _ => none

/-- What an invocation may look at. -/
def filesFor (invocation : Command.Invocation) : IO FileTree := do
  let here := (Path.ofText (← IO.currentDir).toString).parts
  let mut files : FileTree := ⟨here, []⟩
  files ← addParents files (here ++ [""])
  for (path, below) in pathsOf invocation do
    files ← addPath files path below
  match buildPath? files invocation with
  | some path => addPath files path .names
  | none => return files

/-- Writes what has changed to the disk, directories before what they hold. -/
def saveChanges (earlier later : FileTree) : IO Unit := do
  let changes := (later.changesSince earlier).mergeSort fun a b => Path.inOrder a.1 b.1
  for (place, entry) in changes do
    match entry with
    | .directory => IO.FS.createDirAll (placeText place)
    | .file bytes => IO.FS.writeBinFile (placeText place) ⟨bytes.toArray⟩

/-- Runs a command line on the disk. -/
def runLine (line : List String) : IO UInt32 := do
  let files ← match Command.Invocation.read line with
    | .ok invocation => filesFor invocation
    | .error _ => pure ⟨.root, []⟩
  let outcome := Command.run files line
  IO.print outcome.output
  IO.eprint outcome.errors
  saveChanges files outcome.files
  match outcome.ending with
  | .ok code => return UInt32.ofNat code
  | .error failure =>
    IO.eprintln (failure.message?.getD "the keys of the configuration cannot be ordered")
    return 1

end RecordMirror.Program

/-- The program. -/
def main (line : List String) : IO UInt32 :=
  RecordMirror.Program.runLine line
