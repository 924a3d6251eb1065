import BlockAudit.Yaml.Scalar

/-!
# Nodes of YAML documents

A document is a tree of nodes. A node may be referred to from another place; what can be referred to has
a slot, and a reference names the slot. Slots are numbered by the distinct anchor names known when the
anchor is met, so a later anchor can take over a slot.
-/

namespace BlockAudit

namespace Yaml

/-- A node. Its slot and its tag may be missing. -/
inductive Node
  /-- A reference to the node of a slot. -/
  | alias (slot : Nat)
  | scalar (slot : Option Nat) (tag : Option Text) (style : ScalarStyle) (text : Text)
  | sequence (slot : Option Nat) (items : List Node)
  | mapping (slot : Option Nat) (entries : List (Node × Node))

namespace Node

/-- A node that is not written. -/
def empty : Node := .scalar none none .plain []

mutual

/-- The last node with the given slot, a node coming before its parts. -/
def atSlot? (slot : Nat) : (document : Node) → Option Node
  | .alias _ => none
  | .scalar s tag style text => if s = some slot then some (.scalar s tag style text) else none
  | .sequence s items =>
    lastInItems? slot items <|> if s = some slot then some (.sequence s items) else none
  | .mapping s entries =>
    lastInEntries? slot entries <|> if s = some slot then some (.mapping s entries) else none

def lastInItems? (slot : Nat) : List Node → Option Node
  | [] => none
  | item :: items => lastInItems? slot items <|> atSlot? slot item

def lastInEntries? (slot : Nat) : List (Node × Node) → Option Node
  | [] => none
  | (key, value) :: entries =>
    lastInEntries? slot entries <|> atSlot? slot value <|> atSlot? slot key

end

/-- The node itself, or the one in the document that it refers to. -/
def resolve (node document : Node) : Node :=
  match node with
  | .alias slot => (atSlot? slot document).getD empty
  | _ => node

end Node

end Yaml

end BlockAudit
