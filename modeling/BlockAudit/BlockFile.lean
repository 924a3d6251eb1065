import BlockAudit.Text.Basic

/-!
# The files of a block

A block consists of seven files. Each has a file name and a marker, the word that introduces the
file's text in a response. The order of `BlockFile.all` is the order in which files are written,
composed and looked up.
-/

namespace BlockAudit

/-- One of the seven files of a block. -/
inductive BlockFile
  | metadata
  | config
  | registration
  | render
  | editorScript
  | sharedScript
  | style
  deriving DecidableEq, Repr

namespace BlockFile

/-- The seven files in canonical order. -/
def all : List BlockFile :=
  [metadata, config, registration, render, editorScript, sharedScript, style]

/-- The word that introduces the file in a response. -/
def marker : BlockFile → Text
  | metadata => "BLOCK_JSON"
  | config => "CONFIG_PHP"
  | registration => "REGISTERING_PHP"
  | render => "PHP_RENDER_CALLBACK"
  | editorScript => "EDITOR_JS"
  | sharedScript => "CENTRALIZED_JS"
  | style => "CENTRALIZED_CSS"

/-- The name of the file in a block's directory. -/
def fileName : BlockFile → Text
  | metadata => "block.json"
  | config => "config.php"
  | registration => "registering.php"
  | render => "render.php"
  | editorScript => "editor.js"
  | sharedScript => "centralized.js"
  | style => "centralized.css"

/-- A block lacks nothing: each of the seven files is required. -/
def required (_ : BlockFile) : Bool := true

/-- The file that a marker, with any white space around it, introduces. -/
def ofMarker? (text : Text) : Option BlockFile := all.find? (·.marker == Text.trim text)

/-- The file with the given name. -/
def ofFileName? (name : Text) : Option BlockFile := all.find? (·.fileName == name)

theorem mem_all (file : BlockFile) : file ∈ all := by cases file <;> decide

end BlockFile

end BlockAudit
