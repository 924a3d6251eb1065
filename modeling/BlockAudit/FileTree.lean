import BlockAudit.FileTree.Disk

/-!
# File trees

A file tree says what stands at each place: a directory, a file with its content, or nothing. A place
is the list of names from the root. Operations follow a route to a place and fail when it leads through
something that is not a directory, or when the disk fails. Making a directory with its ancestors keeps
the directories made up to the failure, and a file that was opened keeps the bytes written up to it;
otherwise an operation that fails changes nothing.
-/

namespace BlockAudit

/-- What stands at a place. -/
inductive Entry
  | directory
  | file (content : ByteArray)

instance : DecidableEq Entry
  | .directory, .directory => isTrue rfl
  | .directory, .file _ => isFalse Entry.noConfusion
  | .file _, .directory => isFalse Entry.noConfusion
  | .file a, .file b =>
    match ByteArray.instDecidableEq a b with
    | isTrue h => isTrue (congrArg Entry.file h)
    | isFalse h => isFalse fun heq => h (Entry.file.inj heq)

/-- The names that lead from the root to a place. -/
abbrev Place := List Text

/-- The entries of all places other than the root, which is a directory, and the place where relative
paths begin. -/
structure FileTree where
  entries : List (Place × Entry) := []
  workingDirectory : Place := []
  deriving DecidableEq

namespace FileTree

/-- What stands at a place. -/
def entry? (t : FileTree) (place : Place) : Option Entry :=
  if place.isEmpty then some .directory else t.entries.lookup place

/-- The tree with an entry at a place, whatever stood there before. -/
def put (t : FileTree) (place : Place) (entry : Entry) : FileTree :=
  { t with entries := (place, entry) :: t.entries.filter fun old => old.1 ≠ place }

/-- The tree without the entry at a place. -/
def drop (t : FileTree) (place : Place) : FileTree :=
  { t with entries := t.entries.filter fun old => old.1 ≠ place }

/-- One step along a route. It has to start at a directory. -/
def step (t : FileTree) (place : Place) (name : Text) : Except FileError Place :=
  match t.entry? place with
  | none => .error .notFound
  | some (.file _) => .error .notDirectory
  | some .directory =>
    if name = Path.here then .ok place
    else if name = Path.above then .ok place.dropLast
    else if Route.nameLimit < Text.byteLength name then .error .nameTooLong
    else .ok (place ++ [name])

/-- The place that a route leads to; there may be nothing at it. -/
def locate (t : FileTree) (route : Route) : Except FileError Place :=
  route.names.foldlM t.step (if route.fromRoot then [] else t.workingDirectory)

/-- The place that a path leads to. -/
def locatePath (t : FileTree) (path : Text) : Except FileError Place := do
  t.locate (← Route.ofPath path)

/-- A route leads to a directory. -/
def isDirectory (t : FileTree) (route : Route) : Bool :=
  match t.locate route with
  | .ok place => t.entry? place == some .directory
  | .error _ => false

/-- A path leads to a file or a directory. -/
def pathExists (t : FileTree) (path : Text) : Bool :=
  match Route.ofPath path with
  | .error _ => false
  | .ok route =>
    match t.locate route with
    | .error _ => false
    | .ok place =>
      match t.entry? place with
      | none => false
      | some .directory => true
      | some (.file _) => !route.toDirectory

/-- The bytes of a file. -/
def read (t : FileTree) (path : Text) : Except FileError ByteArray := do
  let route ← Route.ofPath path
  let place ← t.locate route
  match t.entry? place with
  | none => .error .notFound
  | some .directory => .error .isDirectory
  | some (.file content) => if route.toDirectory then .error .notDirectory else .ok content

/-- The text of a file. -/
def readText (t : FileTree) (path : Text) : Except FileError Text := do
  match Text.ofUtf8? (← t.read path) with
  | none => .error .notText
  | some text => .ok text

/-- The tree with some content in the file of a path, over the one that is there if there is one. -/
def write (t : FileTree) (path : Text) (content : ByteArray) : Except FileError FileTree := do
  let route ← Route.ofPath path
  let place ← t.locate route
  if route.toDirectory ∨ t.entry? place = some .directory then .error .isDirectory
  else .ok (t.put place (.file content))

/-- Writes a file on a disk. A failure before the file is opened changes nothing; one after it leaves the
file with the bytes that the disk has taken. -/
def store (t : FileTree) (disk : Disk) (path : Text) (content : ByteArray) :
    FileTree × Except FileError Unit :=
  let (bytes, result) := disk.take path content
  match t.write path bytes with
  | .error e => (t, .error e)
  | .ok written =>
    match disk.refusesFile? path with
    | some cause => (t, .error (.disk cause))
    | none => (written, result)

/-- Makes a directory where nothing stands. -/
def makeDirectory (t : FileTree) (disk : Disk) (route : Route) : Except FileError FileTree := do
  let place ← t.locate route
  match t.entry? place with
  | some _ => .error .alreadyExists
  | none =>
    match disk.refusesDirectory? route with
    | some cause => .error (.disk cause)
    | none => .ok (t.put place .directory)

/-- Makes the directories of several routes, one after the other, unless they are there. -/
def ensureDirectories (t : FileTree) (disk : Disk) : List Route → FileTree × Except FileError Unit
  | [] => (t, .ok ())
  | route :: routes =>
    match t.makeDirectory disk route with
    | .ok made => made.ensureDirectories disk routes
    | .error e =>
      if t.isDirectory route then t.ensureDirectories disk routes else (t, .error e)

/-- Makes the directory of a path and those that are missing on the way to it. The empty path stands for
the working directory. -/
def ensureDirectory (t : FileTree) (path : Text) (disk : Disk := {}) :
    FileTree × Except FileError Unit :=
  if path.isEmpty then (t, .ok ())
  else
    match Route.ofPath path with
    | .error e => (t, .error e)
    | .ok route =>
      match t.makeDirectory disk route with
      | .ok made => (made, .ok ())
      | .error .notFound => t.ensureDirectories disk (route.ancestors ++ [route])
      | .error e => if t.isDirectory route then (t, .ok ()) else (t, .error e)

/-- Removes a file. -/
def remove (t : FileTree) (path : Text) : Except FileError FileTree := do
  let route ← Route.ofPath path
  let place ← t.locate route
  match t.entry? place with
  | none => .error .notFound
  | some .directory => .error .isDirectory
  | some (.file _) => if route.toDirectory then .error .notDirectory else .ok (t.drop place)

/-- Where a place below the working directory stands, as a path. -/
def relativePath? (t : FileTree) (place : Place) : Option Text :=
  if t.workingDirectory.length < place.length ∧ t.workingDirectory.isPrefixOf place then
    some (Text.joinWith ['/'] (place.drop t.workingDirectory.length))
  else none

/-- Nothing stands below a place. -/
def isEmptyAt (t : FileTree) (place : Place) : Bool :=
  t.entries.all fun (other, _) => !(place.length < other.length && place.isPrefixOf other)

/-- The line of a listing for an entry: the content of a file, or an empty directory. -/
def listed? (t : FileTree) (place : Place) (entry : Entry) : Option (Text × Option ByteArray) := do
  let path ← t.relativePath? place
  match entry with
  | .file content => some (path, some content)
  | .directory => if t.isEmptyAt place then some (path ++ ['/'], none) else none

/-- The files and the empty directories below the working directory, in the order of their paths. -/
def listing (t : FileTree) : List (Text × Option ByteArray) :=
  (t.entries.filterMap fun (place, entry) => t.listed? place entry).mergeSort
    fun first second => !second.1.lex first.1

end FileTree

end BlockAudit
