import BlockAudit.Yaml.Scalar

/-!
# Tokens of YAML documents

A document is a sequence of tokens: marks that stand in the text, scalars, and marks of where a
structure begins and ends that follow from the indentation alone.
-/

namespace BlockAudit

namespace Yaml

/-- A token. -/
inductive Token
  /-- The version of YAML that a document is written in. -/
  | version (major minor : Nat)
  /-- The text that a handle stands for in tags. -/
  | tagHandle (handle expansion : Text)
  | documentStart
  | documentEnd
  | blockSequenceStart
  | blockMappingStart
  /-- The end of a structure that is written by indentation. -/
  | blockEnd
  | flowSequenceStart
  | flowSequenceEnd
  | flowMappingStart
  | flowMappingEnd
  /-- The hyphen before an item. -/
  | blockEntry
  /-- The comma between items in brackets. -/
  | flowEntry
  | key
  | value
  /-- A reference to an anchor. -/
  | alias (anchor : Text)
  | anchor (name : Text)
  | tag (handle suffix : Text)
  | scalar (style : ScalarStyle) (text : Text)
  deriving DecidableEq

end Yaml

end BlockAudit
