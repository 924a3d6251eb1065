import BlockAudit.BlockName
import BlockAudit.Json.Basic

/-!
# Fixes of the metadata

Each fix answers with the changed metadata and the change in words, or with nothing when there is
nothing to change.
-/

namespace BlockAudit

namespace Fix

/-- The keywords as a list; a single text counts as a list of one. -/
def keywordList (metadata : Json.Fields) : List Json :=
  match metadata.get? "keywords" with
  | some (.array items) => items
  | some (.string s) => [.string s]
  | _ => []

/-- Puts the prescribed keyword first and leaves every other occurrence of it out. -/
def keywords (c : Conventions) (metadata : Json.Fields) : Option (Json.Fields × Text) :=
  let others := (keywordList metadata).filter fun item => item.string? ≠ some c.keyword
  let wanted := Json.array (.string c.keyword :: others)
  if metadata.get? "keywords" = some wanted then none
  else some (metadata.set "keywords" wanted, "Added \"" ++ c.keyword ++ "\" as the first keyword")

/-- A key, a legacy path that its value may be, and the path that replaces it. -/
structure LegacyPath where
  key : Text
  legacy : Text
  current : Text

/-- The paths that are no longer used. -/
def legacyPaths : List LegacyPath :=
  [⟨"editorScript", "file:./index.js", "file:./editor.js"⟩,
    ⟨"editorStyle", "file:./index.css", "file:./centralized.css"⟩]

/-- The entries of a table that apply to the metadata, one after the other, and the metadata after
them. -/
def replaceLegacy (metadata : Json.Fields) : List LegacyPath → Json.Fields × List LegacyPath
  | [] => (metadata, [])
  | path :: paths =>
    if metadata.string? path.key = some path.legacy then
      let (metadata, replaced) := replaceLegacy (metadata.set path.key (.string path.current)) paths
      (metadata, path :: replaced)
    else replaceLegacy metadata paths

/-- Replaces legacy asset paths. -/
def legacyAssetPaths (metadata : Json.Fields) : Option (Json.Fields × Text) :=
  let (metadata, replaced) := replaceLegacy metadata legacyPaths
  if replaced.isEmpty then none
  else
    let words := replaced.map fun path => path.key ++ [' '] ++ path.legacy ++ " -> " ++ path.current
    some (metadata, "Normalized legacy asset paths: " ++ Text.joinWith ", " words)

/-- The attribute that marks example blocks. -/
def exampleFlag : Json :=
  .object [("type", .string "boolean"), ("default", .bool false)]

/-- Adds the attribute of example blocks to the attributes, which may be missing. -/
def exampleAttribute (metadata : Json.Fields) : Option (Json.Fields × Text) :=
  let attributes? : Option Json.Fields := match metadata.get? "attributes" with
    | none | some .null => some []
    | some (.object attributes) => some attributes
    | some _ => none
  match attributes? with
  | none => none
  | some attributes =>
    if (attributes.get? "isExample").isSome then none
    else
      let attributes := attributes.set "isExample" exampleFlag
      some (metadata.set "attributes" (.object attributes), "Added isExample attribute")

/-- The lists that asset references of a block have to be. -/
def assetListsOf (name : BlockName) (c : Conventions) : List (Text × Json) :=
  let css := name.handle c "centralized-css"
  let js := name.handle c "centralized-js"
  [("editorStyle", .array [.string css, .string "file:./editor-styles.css"]),
    ("viewScript", .array [.string js]),
    ("viewStyle", .array [.string css])]

/-- The value is there and is neither null nor a list. -/
def isScalar : Option Json → Bool
  | none | some .null | some (.array _) => false
  | some _ => true

/-- Replaces the values of the given keys that are neither null nor lists; the keys replaced follow. -/
def replaceScalars (metadata : Json.Fields) : List (Text × Json) → Json.Fields × List Text
  | [] => (metadata, [])
  | (key, list) :: rest =>
    if isScalar (metadata.get? key) then
      let (metadata, replaced) := replaceScalars (metadata.set key list) rest
      (metadata, key :: replaced)
    else replaceScalars metadata rest

/-- Replaces asset references that are no lists. A block without a slug has no handles to refer to. -/
def assetLists (name : BlockName) (c : Conventions) (metadata : Json.Fields) :
    Option (Json.Fields × Text) :=
  if name.slug.isEmpty then none
  else
    let (metadata, replaced) := replaceScalars metadata (assetListsOf name c)
    if replaced.isEmpty then none
    else some (metadata, "Updated asset references: " ++ Text.joinWith ", " replaced)

end Fix

end BlockAudit
