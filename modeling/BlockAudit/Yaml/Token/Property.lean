import BlockAudit.Yaml.Scalar.Quoted
import BlockAudit.Yaml.Token

/-!
# Directives, anchors and tags

Reads the tokens that say something about a document or a node instead of being a part of it.
-/

namespace BlockAudit

namespace Yaml

/-- A name: one or more letters, digits, hyphens and underscores. -/
def name? (p : Cursor) : Option (Text × Cursor) :=
  let (name, q) := p.span isNameChar
  if name.isEmpty then none else some (name, q)

/-- The name of an anchor or of a reference to one, after its first character. -/
def anchorName? (p : Cursor) : Option (Text × Cursor) := do
  let (name, q) ← name? p
  if endsWord q.peek? ∨ q.peek?.any ("?:,]\x7d%@`".contains ·) then some (name, q) else none

/-- The bytes that escapes with a percent sign and two digits stand for. -/
def uriBytes? : (count : Nat) → Cursor → Option (List UInt8 × Cursor)
  | 0, p => some ([], p)
  | count + 1, p => do
    let q ← p.after? "%"
    let byte ← hexNumber? (q.rest.take 2)
    if q.rest.length < 2 then none
    let (bytes, last) ← uriBytes? count (q.forward 2)
    return (UInt8.ofNat byte :: bytes, last)

/-- The number of bytes of a character whose first byte is `byte`. -/
def utf8Width? (byte : UInt8) : Option Nat :=
  if byte < 0x80 then some 1
  else if byte &&& 0xE0 = 0xC0 then some 2
  else if byte &&& 0xF0 = 0xE0 then some 3
  else if byte &&& 0xF8 = 0xF0 then some 4
  else none

/-- A character written by the escapes of its bytes. -/
def uriEscape? (p : Cursor) : Option (Text × Cursor) := do
  let (first, _) ← uriBytes? 1 p
  let width ← utf8Width? (first.headD 0)
  let (bytes, q) ← uriBytes? width p
  if (bytes.drop 1).all fun byte => byte &&& 0xC0 = 0x80 then
    some ((Text.ofUtf8? ⟨bytes.toArray⟩).getD ['\ufffd'], q)
  else none

/-- A character that stands for itself in a tag. Some stand only where a tag is enclosed. -/
def isUriChar (enclosed : Bool) (c : Char) : Bool :=
  isNameChar c || ";/?:@&=+$.!~*'()".contains c || (enclosed && ",[]".contains c)

/-- The part of a tag that comes next; maybe empty. -/
def uri? (enclosed : Bool) : (fuel : Nat) → Cursor → Option (Text × Cursor)
  | 0, _ => none
  | fuel + 1, p =>
    match p.peek? with
    | none => some ([], p)
    | some c =>
      if c = '%' then do
        let (text, q) ← uriEscape? p
        let (tail, last) ← uri? enclosed fuel q
        return (text ++ tail, last)
      else if isUriChar enclosed c then
        (uri? enclosed fuel (p.forward 1)).map fun (tail, last) => (c :: tail, last)
      else some ([], p)

/-- A part of a tag that is not empty. -/
def uri1? (enclosed : Bool) (p : Cursor) : Option (Text × Cursor) := do
  let (text, q) ← uri? enclosed (p.rest.length + 1) p
  if text.isEmpty then none else some (text, q)

/-- An exclamation mark, a name that may be missing, and maybe another exclamation mark. -/
def handle? (p : Cursor) : Option (Text × Cursor) := do
  let q ← p.after? "!"
  let (name, r) := q.span isNameChar
  match r.after? "!" with
  | some last => return (['!'] ++ name ++ ['!'], last)
  | none => return ('!' :: name, r)

/-- A tag: between angle brackets, with a named handle, or with the handle `!`. A lone exclamation mark is
a tag without a handle. -/
def tag? (flow : Bool) (p : Cursor) : Option (Token × Cursor) := do
  let (token, last) ←
    match p.after? "!<" with
    | some q => do
      let (suffix, r) ← uri1? true q
      (r.after? ">").map fun last => (Token.tag [] suffix, last)
    | none => do
      let (handle, q) ← handle? p
      if 1 < handle.length ∧ handle.getLast? = some '!' then do
        let (suffix, last) ← uri1? false q
        return (Token.tag handle suffix, last)
      else do
        let (more, last) ← uri? false (q.rest.length + 1) q
        let suffix := handle.drop 1 ++ more
        return (if suffix.isEmpty then Token.tag [] ['!'] else Token.tag ['!'] suffix, last)
  if endsWord last.peek? ∨ (flow ∧ last.peek? = some ',') then some (token, last) else none

/-- A number of at most nine digits. -/
def versionNumber? (p : Cursor) : Option (Nat × Cursor) :=
  let (digits, q) := p.span Char.isDigit
  if digits.isEmpty ∨ 9 < digits.length then none
  else some (digits.foldl (fun n c => 10 * n + (c.toNat - '0'.toNat)) 0, q)

/-- A directive after its percent sign, up to the end of its line. -/
def directive? (p : Cursor) : Option (Token × Cursor) := do
  let (name, p) ← name? p
  if !endsWord p.peek? then none
  let p := p.skip isBlank
  let (token, p) ←
    if name = "YAML".toList then do
      let (major, p) ← versionNumber? p
      let p ← p.after? "."
      let (minor, p) ← versionNumber? p
      some (Token.version major minor, p)
    else if name = "TAG".toList then do
      let (handle, p) ← handle? p
      if 1 < handle.length ∧ handle.getLast? ≠ some '!' then none
      if !p.peek?.any isBlank then none
      let (expansion, p) ← uri1? true (p.skip isBlank)
      if endsWord p.peek? then some (Token.tagHandle handle expansion, p) else none
    else none
  return (token, ← p.restOfLine?)

end Yaml

end BlockAudit
