import BlockAudit.Error
import BlockAudit.Settings
import BlockAudit.Yaml.CoreType
import BlockAudit.Yaml.Node.Reader

/-!
# Reading settings

The settings are read from a YAML document. Only the version must be there; what is missing has its
default, and keys that are not known are passed over. A group with nothing at all as its value has the
defaults of all its keys.
-/

namespace BlockAudit

namespace Settings

open Yaml (Node)

/-- The prefix of tags that YAML itself defines. -/
def coreTag : Text := "tag:yaml.org,2002:"

/-- The text of a scalar, in whatever style it is written. -/
def text? (root node : Node) : Option Text :=
  match node.resolve root with
  | .scalar _ _ _ text => some text
  | _ => none

/-- The text of a scalar that can be a value of the given core type: a plain one, or a literal one that
has the type's tag. -/
def typedText? (root : Node) (type : Text) (node : Node) : Option Text :=
  match node.resolve root with
  | .scalar _ _ .plain text => some text
  | .scalar _ tag .literal text => if tag = some (coreTag ++ type) then some text else none
  | _ => none

/-- The entries of a group with the texts of their keys. The value of a group is a mapping, or nothing at
all. -/
def entries? (root node : Node) : Option (List (Text × Node)) :=
  match node.resolve root with
  | .mapping _ entries => entries.mapM fun (key, value) => (text? root key).map (·, value)
  | .scalar _ _ .plain [] => some []
  | _ => none

/-- The value of a key, read if it is there, or the default. The key may be there once. -/
def field? {α : Type} (entries : List (Text × Node)) (key : Text) (default : α)
    (read : Node → Option α) : Option α :=
  match entries.filter fun entry => entry.1 == key with
  | [] => some default
  | [(_, node)] => read node
  | _ => none

/-- The version. -/
def version? (root node : Node) : Option UInt32 := do
  let n ← Yaml.unsigned? (Nat.pow 2 32) (← typedText? root "int" node)
  return UInt32.ofNat n

/-- A truth value. -/
def flag? (root node : Node) : Option Bool := do Yaml.bool? (← typedText? root "bool" node)

/-- A policy: its name, or its name as the tag of an empty or null scalar. -/
def policy? (root node : Node) : Option Policy :=
  match node.resolve root with
  | .scalar _ (some ('!' :: name)) style text =>
    if style = .plain ∧ (text.isEmpty ∨ Yaml.isNull text) then Policy.ofName? name else none
  | .scalar _ _ _ text => Policy.ofName? text
  | _ => none

/-- The naming conventions. -/
def conventions? (root node : Node) : Option Conventions := do
  let entries ← entries? root node
  let default : Conventions := {}
  let text (key value : Text) : Option Text := field? entries key value (text? root)
  return {
    blockNamespace := ← text "namespace" default.blockNamespace
    titleStart := ← text "title_prefix" default.titleStart
    category := ← text "category" default.category
    keyword := ← text "keyword" default.keyword
    classStart := ← text "class_prefix" default.classStart
    phpRoot := ← text "php_namespace" default.phpRoot
    blocksDir := ← text "blocks_dir" default.blocksDir }

/-- The policy and the treatment of fences. -/
def pipeline? (root node : Node) : Option (Policy × Bool) := do
  let entries ← entries? root node
  let policy ← field? entries "policy" .warn (policy? root)
  let stripFences ← field? entries "strip_fences" true (flag? root)
  return (policy, stripFences)

/-- The settings of a document, of whatever version they are. -/
def ofNode? (root : Node) : Option Settings := do
  let entries ← entries? root root
  let version ← (← field? entries "version" none fun node => (version? root node).map some)
  let conventions ← field? entries "conventions" {} (conventions? root)
  let (policy, stripFences) ← field? entries "pipeline" (.warn, true) (pipeline? root)
  return { version, conventions, policy, stripFences }

/-- The only version of the settings' form. -/
def currentVersion : UInt32 := 1

/-- The settings of a text. -/
def parse (text : Text) : Except Error Settings :=
  match (Node.parse? text).bind ofNode? with
  | none => .error .settingsMalformed
  | some settings =>
    if settings.version = currentVersion then .ok settings
    else .error (.settingsVersion settings.version)

end Settings

end BlockAudit
