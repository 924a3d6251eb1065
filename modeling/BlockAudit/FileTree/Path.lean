import BlockAudit.Error

/-!
# Paths

A path is a text. It leads along a route: from the root or from the working directory through the
names between its slashes.
-/

namespace BlockAudit

namespace Path

/-- A path followed by a name. -/
def join (path name : Text) : Text :=
  if path.isEmpty then name
  else if path.getLast? = some '/' then path ++ name
  else path ++ ['/'] ++ name

/-- The name that stands for the directory itself. -/
def here : Text := "."

/-- The name that stands for the directory above. -/
def above : Text := ".."

end Path

/-- The names that a path leads through. -/
structure Route where
  /-- The route begins at the root and not in the working directory. -/
  fromRoot : Bool
  names : List Text
  /-- The path ends with a slash, so what it leads to has to be a directory. -/
  toDirectory : Bool
  deriving DecidableEq

namespace Route

/-- A path has less bytes than this. -/
def pathLimit : Nat := 4096

/-- A name has at most this number of bytes. -/
def nameLimit : Nat := 255

/-- The route of a path. -/
def ofPath (path : Text) : Except FileError Route :=
  if path.any (· == '\x00') then .error .nulInPath
  else if pathLimit ≤ Text.byteLength path then .error .nameTooLong
  else if path.isEmpty then .error .notFound
  else .ok {
    fromRoot := path.head? = some '/'
    names := (Text.splitOn '/' path).filter fun name => !name.isEmpty
    toDirectory := path.getLast? = some '/' }

/-- The routes to the directories that a route leads through, from the outermost one on. -/
def ancestors (route : Route) : List Route :=
  let names := route.names.filter fun name => name ≠ Path.here
  (List.range (names.length - 1)).map fun n =>
    { fromRoot := route.fromRoot, names := names.take (n + 1), toDirectory := false }

end Route

end BlockAudit
