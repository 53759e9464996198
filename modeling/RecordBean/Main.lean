import RecordBean.Command

/-! # The program

All that touches the world. What a run can see of the disk is read into a file tree, the run is a
function of that tree, and the difference it makes is written back.
-/

namespace RecordBean.Disk
open RecordBean.Text

/-- A location as a path of the disk. -/
def pathOf (l : Location) : String := "/" ++ joined "/" l

/-- What the disk holds at a location. -/
def look (l : Location) : IO (Option FileNode) := do
  let place := (← IO.currentDir) / pathOf l
  if ← place.isDir then return some .directory
  if ← place.pathExists then return some (.file (.ofBytes (← IO.FS.readBinFile place)))
  return none

/-- Add what the disk holds on the way to a path and at its end. -/
def observe (t : FileTree) (path : String) : IO FileTree := do
  let mut t := t
  let mut l := t.start path
  for s in Path.steps path do
    l := if s == Path.up then l.dropLast else l ++ [s]
    if let some n ← look l then t := t.put l n
  return t

/-- Add all that the disk holds below a location. -/
partial def observeBelow (t : FileTree) (l : Location) : IO FileTree := do
  match ← look l with
  | none => return t
  | some .directory =>
    let mut t := t.put l .directory
    for entry in ← ((← IO.currentDir) / pathOf l).readDir do
      t ← observeBelow t (l ++ [entry.fileName])
    return t
  | some n => return t.put l n

/-- The tree that a command can see: its documents, and for a command that writes also everything
below the root directory of the sources. -/
def survey (i : Invocation) : IO FileTree := do
  let t := FileTree.empty (Path.steps (← IO.currentDir).toString)
  let t ← observe t (i.command.config?.getD Command.defaultConfig)
  match i.command with
  | .check input _ => observe t input
  | .preview input .. => observe t input
  | .generate input .. =>
    let t ← observe t input
    match Command.loadSettings t i.command.config? with
    | .error _ => return t
    | .ok settings =>
      let root := (i.command.adjust settings).outputDir
      let t ← observe t root
      match t.locate root with
      | .error _ => return t
      | .ok l => observeBelow t l

/-- Write a file beside the one whose place it then takes. -/
def replace (path : String) (content : ByteArray) : IO Unit := do
  let draft := path ++ ".part"
  IO.FS.writeBinFile draft content
  IO.FS.rename draft path

/-- Make the disk follow a tree from an earlier state to a later one. The directory of a location
comes before the location. -/
def follow (before after : FileTree) : IO Unit := do
  for (l, n) in after.nodes.toList do
    if before.nodes[l]? != some n then
      match n with
      | .directory => IO.FS.createDirAll (pathOf l)
      | .file (.text content) => replace (pathOf l) content.toUTF8
      | .file (.binary bytes) => replace (pathOf l) (ByteArray.mk bytes.toArray)

end RecordBean.Disk

namespace RecordBean.Program

/-- The environment variable that can hold a log filter. -/
def filterVariable : String := "RUST_LOG"

/-- Run the program on the disk. -/
def runOnDisk (arguments : List String) : IO UInt32 := do
  let before ← match CommandLine.parse arguments with
    | .run i => Disk.survey i
    | _ => pure (FileTree.empty [])
  let outcome := run arguments (← IO.getEnv filterVariable) before
  Disk.follow before outcome.tree
  IO.print outcome.output
  IO.eprint outcome.errors
  return outcome.status.toUInt32

end RecordBean.Program

/-- Write, check or preview the beans of a catalog. -/
def main (arguments : List String) : IO UInt32 := RecordBean.Program.runOnDisk arguments
