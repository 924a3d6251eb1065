import BlockAudit.Bundle
import BlockAudit.Section.Extract
import BlockAudit.Section.Fence

/-!
# Responses

A response is one text that holds the seven files of a block, each as a section. It is read into a
draft, and a bundle is composed into a response.
-/

namespace BlockAudit

namespace Response

/-- The body of a file's first section, without its code fence if fences are to be stripped. -/
def body (stripFences : Bool) (response : Text) (file : BlockFile) : Except Error Text :=
  match Section.extract? (Text.trim response) file with
  | none => .error (.sectionMissing file)
  | some body => .ok (if stripFences then Section.stripFence body else body)

/-- The bodies of the seven files. The first file in canonical order without a section is the one
that is missed. -/
def draft (stripFences : Bool) (response : Text) : Except Error Draft := do
  let metadata ← body stripFences response .metadata
  let config ← body stripFences response .config
  let registration ← body stripFences response .registration
  let render ← body stripFences response .render
  let editorScript ← body stripFences response .editorScript
  let sharedScript ← body stripFences response .sharedScript
  let style ← body stripFences response .style
  return { metadata, config, registration, render, editorScript, sharedScript, style }

/-- The bundle of a response. -/
def parse (stripFences : Bool) (response : Text) : Except Error Bundle := do
  (← draft stripFences response).assemble

/-- One section of a composed response. -/
def composeSection (b : Bundle) (file : BlockFile) : Text :=
  Section.sentinel ++ ['\n'] ++ file.marker ++ ['\n'] ++ Text.trim (b.text file) ++ ['\n']

/-- The response that holds a bundle: the seven sections in canonical order and a closing sentinel. -/
def compose (b : Bundle) : Text :=
  BlockFile.all.flatMap (composeSection b) ++ Section.sentinel ++ ['\n']

end Response

end BlockAudit
