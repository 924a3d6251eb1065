import BlockAudit.Yaml.Node
import BlockAudit.Yaml.Token.Lexer

/-!
# Reading nodes

The grammar of nodes over tokens. Missing keys, values and items are empty scalars where the grammar
allows them to be missing.
-/

namespace BlockAudit

namespace Yaml

/-- The tokens that are left, and what is known of anchors and tag handles. -/
structure Reading where
  tokens : List Token
  /-- The anchors met so far, each with its slot. -/
  anchors : List (Text × Nat) := []
  /-- What handles stand for. -/
  handles : List (Text × Text) := []

/-- A reader of a part of a document. -/
abbrev NodeReader := StateT Reading Option

namespace NodeReader

/-- The token that comes next; none at the end. -/
def peek : NodeReader (Option Token) := do return (← get).tokens.head?

/-- Goes past one token. -/
def advance : NodeReader Unit := modify fun r => { r with tokens := r.tokens.drop 1 }

/-- Goes past a given token, which must come next. -/
def expect (token : Token) : NodeReader Unit := do
  if (← peek) = some token then advance else failure

/-- One of the given tokens, or the end, comes next. -/
def atAny (tokens : List Token) : NodeReader Bool := do return (← peek).all tokens.contains

/-- Takes an anchor if one comes next; the answer is its slot. -/
def anchor? : NodeReader (Option Nat) := do
  match ← peek with
  | some (.anchor name) =>
    advance
    let r ← get
    let slot := r.anchors.length
    set { r with
      anchors :=
        if (r.anchors.lookup name).isSome then
          r.anchors.map fun (other, n) => (other, if other = name then slot else n)
        else (name, slot) :: r.anchors }
    return some slot
  | _ => return none

/-- Takes a tag if one comes next. Its handle must be known. -/
def tag? : NodeReader (Option Text) := do
  match ← peek with
  | some (.tag handle suffix) =>
    advance
    if handle.isEmpty then return some suffix
    let expansion ← (← get).handles.lookup handle
    return some (expansion ++ suffix)
  | _ => return none

/-- Takes an anchor and a tag in either order. -/
def properties : NodeReader (Option Nat × Option Text) := do
  match ← anchor? with
  | some slot => return (some slot, ← tag?)
  | none =>
    let tag ← tag?
    return (← anchor?, tag)

/-- The tag of a scalar; a lone exclamation mark counts as no tag. -/
def scalarTag (tag : Option Text) : Option Text := if tag = some ['!'] then none else tag

/-- An empty scalar if one of the given tokens or the end comes next, else what `read` reads. -/
def unlessAt (tokens : List Token) (read : NodeReader Node) : NodeReader Node := do
  if ← atAny tokens then return .empty else read

/-- The items of a sequence that is written by indentation. -/
def blockItems (node : NodeReader Node) : (fuel : Nat) → NodeReader (List Node)
  | 0 => failure
  | fuel + 1 => do
    match ← peek with
    | some .blockEntry =>
      advance
      let item ← unlessAt [.blockEntry, .blockEnd] node
      return item :: (← blockItems node fuel)
    | some .blockEnd => advance; return []
    | _ => failure

/-- The items of a sequence that is a value of a mapping and not indented more than its key. -/
def indentlessItems (node : NodeReader Node) : (fuel : Nat) → NodeReader (List Node)
  | 0 => failure
  | fuel + 1 => do
    match ← peek with
    | some .blockEntry =>
      advance
      let item ← unlessAt [.blockEntry, .key, .value, .blockEnd] node
      return item :: (← indentlessItems node fuel)
    | _ => return []

/-- The entries of a mapping that is written by indentation. -/
def blockEntries (node : NodeReader Node) : (fuel : Nat) → NodeReader (List (Node × Node))
  | 0 => failure
  | fuel + 1 => do
    match ← peek with
    | some .key =>
      advance
      let key ← unlessAt [.key, .value, .blockEnd] node
      let value ←
        if (← peek) = some .value then do
          advance
          unlessAt [.key, .value, .blockEnd] node
        else pure .empty
      return (key, value) :: (← blockEntries node fuel)
    | some .blockEnd => advance; return []
    | _ => failure

/-- The value after a key in brackets, if a colon comes next. -/
def flowValue (close : Token) (node : NodeReader Node) : NodeReader Node := do
  if (← peek) = some .value then
    advance
    unlessAt [.flowEntry, close] node
  else return .empty

/-- A single entry of a mapping, as an item of a sequence in brackets. Where the key is missing, the token
that comes next takes its place. -/
def flowPair (node : NodeReader Node) : NodeReader Node := do
  let key ←
    if ← atAny [.value, .flowEntry, .flowSequenceEnd] then do
      advance
      pure Node.empty
    else node
  return .mapping none [(key, ← flowValue .flowSequenceEnd node)]

/-- The items of a sequence in brackets. -/
def flowItems (node : NodeReader Node) : (fuel : Nat) → (first : Bool) → NodeReader (List Node)
  | 0, _ => failure
  | fuel + 1, first => do
    if (← peek) = some .flowSequenceEnd then
      advance
      return []
    if !first then expect .flowEntry
    match ← peek with
    | some .flowSequenceEnd => advance; return []
    | some .key =>
      advance
      let item ← flowPair node
      return item :: (← flowItems node fuel false)
    | _ =>
      let item ← node
      return item :: (← flowItems node fuel false)

/-- The entries of a mapping in brackets. -/
def flowEntries (node : NodeReader Node) :
    (fuel : Nat) → (first : Bool) → NodeReader (List (Node × Node))
  | 0, _ => failure
  | fuel + 1, first => do
    if (← peek) = some .flowMappingEnd then
      advance
      return []
    if !first then expect .flowEntry
    match ← peek with
    | some .flowMappingEnd => advance; return []
    | some .key =>
      advance
      let key ← unlessAt [.value, .flowEntry, .flowMappingEnd] node
      let value ← flowValue .flowMappingEnd node
      return (key, value) :: (← flowEntries node fuel false)
    | _ =>
      let key ← node
      return (key, .empty) :: (← flowEntries node fuel false)

/-- The node that comes next. `block` allows structures that are written by indentation, and `indentless`
a sequence without indentation of its own. -/
def node : (fuel : Nat) → (block indentless : Bool) → NodeReader Node
  | 0, _, _ => failure
  | fuel + 1, block, indentless => do
    match ← peek with
    | some (.alias name) =>
      advance
      return .alias (← (← get).anchors.lookup name)
    | _ =>
      let (slot, tag) ← properties
      let missing : NodeReader Node :=
        if slot.isSome || tag.isSome then return .scalar slot tag .plain [] else failure
      match ← peek with
      | some .blockEntry =>
        if indentless then return .sequence slot (← indentlessItems (node fuel true false) fuel)
        else missing
      | some (.scalar style text) =>
        advance
        return .scalar slot (scalarTag tag) style text
      | some .flowSequenceStart =>
        advance
        return .sequence slot (← flowItems (node fuel false false) fuel true)
      | some .flowMappingStart =>
        advance
        return .mapping slot (← flowEntries (node fuel false false) fuel true)
      | some .blockSequenceStart =>
        if block then
          advance
          return .sequence slot (← blockItems (node fuel true false) fuel)
        else missing
      | some .blockMappingStart =>
        if block then
          advance
          return .mapping slot (← blockEntries (node fuel true true) fuel)
        else missing
      | _ => missing

/-- The handles of a document that its directives give, once each; the version must be known and given
at most once. -/
def directives : (fuel : Nat) → (versionKnown : Bool) → NodeReader Unit
  | 0, _ => failure
  | fuel + 1, versionKnown => do
    match ← peek with
    | some (.version major minor) =>
      if versionKnown || major != 1 || !(minor == 1 || minor == 2) then failure
      advance
      directives fuel true
    | some (.tagHandle handle expansion) =>
      let r ← get
      if (r.handles.lookup handle).isSome then failure
      set { r with handles := (handle, expansion) :: r.handles }
      advance
      directives fuel versionKnown
    | _ => return ()

/-- The handles that need no directive. -/
def defaultHandles : List (Text × Text) := [("!", "!"), ("!!", "tag:yaml.org,2002:")]

/-- The tokens that begin or end a document. -/
def isDocumentPart : Token → Bool
  | .version _ _ | .tagHandle _ _ | .documentStart | .documentEnd => true
  | _ => false

/-- The only document, with or without a marker at its start. -/
def document (fuel : Nat) : NodeReader Node := do
  let explicit := (← peek).any fun token => isDocumentPart token && token != .documentEnd
  if (← peek).isNone then failure
  directives fuel false
  modify fun r => { r with handles := r.handles ++ defaultHandles }
  if explicit then expect .documentStart
  let root ←
    if explicit && (← peek).all isDocumentPart then pure Node.empty else node fuel true false
  modify fun r => { r with tokens := r.tokens.dropWhile (· == .documentEnd) }
  if (← get).tokens.isEmpty then return root else failure

end NodeReader

/-- The root node of a text, if the text is one document. -/
def Node.parse? (text : Text) : Option Node := do
  let tokens ← Token.scan? text
  return (← (NodeReader.document (2 * tokens.length + 2)).run { tokens }).1

end Yaml

end BlockAudit
