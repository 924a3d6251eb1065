import BlockAudit.BlockName
import BlockAudit.Error
import BlockAudit.Json.Printer
import BlockAudit.Json.Reader

/-!
# Bundles

A bundle is the content of a block's seven files: the metadata as a JSON object and six sources as
plain text. Before its metadata are read it is a draft of seven texts.
-/

namespace BlockAudit

/-- The six sources of a block. -/
structure Sources where
  config : Text
  registration : Text
  render : Text
  editorScript : Text
  sharedScript : Text
  style : Text
  deriving DecidableEq

/-- The texts of a block's seven files. -/
structure Draft extends Sources where
  metadata : Text
  deriving DecidableEq

/-- The metadata and the sources of a block. -/
structure Bundle extends Sources where
  metadata : Json.Fields
  deriving DecidableEq

/-- Reads a block's metadata, which must be a JSON object. -/
def parseMetadata (text : Text) : Except Error Json.Fields :=
  match Json.parse? text with
  | none => .error .metadataMalformed
  | some (.object fields) => .ok fields
  | some value => .error (.metadataNotObject value.kindInWords)

/-- The source of a file; the metadata are not a source. -/
def Sources.source? (s : Sources) : BlockFile → Option Text
  | .metadata => none
  | .config => some s.config
  | .registration => some s.registration
  | .render => some s.render
  | .editorScript => some s.editorScript
  | .sharedScript => some s.sharedScript
  | .style => some s.style

/-- The text of a file. -/
def Draft.text (d : Draft) (file : BlockFile) : Text := (d.source? file).getD d.metadata

/-- The bundle of a draft. -/
def Draft.assemble (d : Draft) : Except Error Bundle := do
  let metadata ← parseMetadata d.metadata
  return { toSources := d.toSources, metadata }

namespace Bundle

/-- The block's name; empty when the metadata have none. -/
def identifier (b : Bundle) : Text := (b.metadata.string? "name").getD []

/-- The block's name and slug under the conventions. -/
def name (b : Bundle) (c : Conventions) : BlockName := .derive b.identifier c

/-- The metadata as they are printed. -/
def metadataText (b : Bundle) : Text := Json.print (.object b.metadata)

/-- The text of a file. -/
def text (b : Bundle) (file : BlockFile) : Text := (b.source? file).getD b.metadataText

/-- The seven texts. -/
def toDraft (b : Bundle) : Draft := { toSources := b.toSources, metadata := b.metadataText }

/-- Replaces the text of a file, which must be JSON for the metadata. -/
def setText (b : Bundle) (file : BlockFile) (text : Text) : Except Error Bundle :=
  match file with
  | .metadata => (parseMetadata text).map fun metadata => { b with metadata }
  | .config => .ok { b with config := text }
  | .registration => .ok { b with registration := text }
  | .render => .ok { b with render := text }
  | .editorScript => .ok { b with editorScript := text }
  | .sharedScript => .ok { b with sharedScript := text }
  | .style => .ok { b with style := text }

end Bundle

end BlockAudit
