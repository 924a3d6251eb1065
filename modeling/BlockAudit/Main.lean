import BlockAudit.Command
import Std.Time.DateTime.Timestamp

/-!
# The program

Takes a picture of the places on disk that the arguments lead to and runs the command on it. The picture
is completed with the places that the command would change, until it shows all that the run depends
on; then the changes are brought to the disk.
-/

namespace BlockAudit

namespace Program

/-- The place of an absolute path. -/
def placeOf (path : Text) : Place := (Text.splitOn '/' path).filter fun name => !name.isEmpty

/-- The absolute path of a place. -/
def pathOf (place : Place) : String := String.ofList (['/'] ++ Text.joinWith ['/'] place)

/-- The place that a path leads to from a directory, as far as its names tell. -/
def target (directory : Place) (path : Text) : Place :=
  (placeOf path).foldl (fun place name =>
    if name = Path.here then place
    else if name = Path.above then place.dropLast
    else place ++ [name]) (if path.head? = some '/' then [] else directory)

/-- What stands at a place on disk. -/
def entryOnDisk? (place : Place) : IO (Option Entry) := do
  try
    discard (IO.FS.realPath (pathOf (place ++ [Path.here])))
    return some .directory
  catch _ =>
    try
      return some (.file (← IO.FS.readBinFile (pathOf place)))
    catch _ => return none

/-- The picture with what stands at a place and on the way to it. -/
def look (tree : FileTree) (place : Place) : IO FileTree := do
  let mut tree := tree
  for n in List.range place.length do
    let part := place.take (n + 1)
    if (tree.entry? part).isNone then
      if let some entry ← entryOnDisk? part then tree := tree.put part entry
  return tree

/-- The picture of the settings and of what paths lead to, as files and as directories of blocks. -/
def picture (directory : Place) (paths : List Text) : IO FileTree := do
  let mut tree : FileTree := { workingDirectory := directory }
  tree ← look tree (directory ++ [settingsFile])
  for path in paths do
    for file in BlockFile.all do
      tree ← look tree (target directory path ++ [file.fileName])
  return tree

/-- The entries of a tree that another one does not have, in the order in which they were made. -/
def changes (before after : FileTree) : List (Place × Entry) :=
  after.entries.reverse.filter fun (place, entry) => before.entry? place != some entry

/-- The ending of a run on a picture that is completed until nothing new is seen. -/
def runOn (s : Surroundings) (words : List Text) : (rounds : Nat) → IO (Surroundings × Ending)
  | 0 => return (s, Command.run s words)
  | rounds + 1 => do
    let ending := Command.run s words
    let tree ← (changes s.tree ending.tree).foldlM (fun tree change => look tree change.1) s.tree
    if tree.entries.length = s.tree.entries.length then return (s, ending)
    else runOn { s with tree } words rounds

/-- Brings changes to the disk, directories before what is in them. -/
def apply (changes : List (Place × Entry)) : IO Unit := do
  for (place, entry) in changes.mergeSort fun x y => decide (x.1.length ≤ y.1.length) do
    match entry with
    | .directory => IO.FS.createDir (pathOf place)
    | .file content => IO.FS.writeBinFile (pathOf place) content

/-- All bytes of a stream. -/
partial def readAll (stream : IO.FS.Stream) (bytes : ByteArray) : IO ByteArray := do
  let more ← stream.read 65536
  if more.isEmpty then return bytes else readAll stream (bytes ++ more)

/-- Runs the command on the disk; the answer is the exit code. -/
def run (args : List String) : IO UInt32 := do
  let words := args.map String.toList
  let directory := (toString (← IO.currentDir)).toList
  let input ← if words.contains ['-'] then readAll (← IO.getStdin) .empty else pure .empty
  let moment := (← Std.Time.Timestamp.now).toNanosecondsSinceUnixEpoch.val.toNat
  let surroundings : Surroundings :=
    { tree := ← picture (placeOf directory) (words.drop 1), directory, input
      now := .ofNanoseconds moment }
  let (surroundings, ending) ← runOn surroundings words 10
  apply (changes surroundings.tree ending.tree)
  IO.eprint (String.ofList ending.notices)
  IO.print (String.ofList ending.output)
  return UInt32.ofNat ending.exitCode

end Program

end BlockAudit

/-- Runs the command that the arguments name. -/
def main (args : List String) : IO UInt32 := BlockAudit.Program.run args
