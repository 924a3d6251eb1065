import BlockAudit.Binary64
import BlockAudit.Text.Basic

/-!
# JSON values

A JSON value keeps the order of an object's fields. Numbers are whole numbers of the 64-bit ranges or
binary floating point. An object's fields are a list of pairs with distinct keys; a field that is set
again keeps its place.
-/

namespace BlockAudit

/-- A JSON number. -/
inductive JsonNumber
  | whole (n : Int)
  | real (x : Binary64)
  deriving DecidableEq

/-- A JSON value. -/
inductive Json
  | null
  | bool (b : Bool)
  | number (n : JsonNumber)
  | string (s : Text)
  | array (items : List Json)
  | object (fields : List (Text × Json))

namespace Json

/-- The fields of an object, in order. -/
abbrev Fields := List (Text × Json)

mutual

/-- Two values are the same when they have the same parts in the same order. -/
def decEq : (x y : Json) → Decidable (x = y)
  | .null, .null => isTrue rfl
  | .bool a, .bool b => if h : a = b then isTrue (h ▸ rfl) else isFalse (by simp [h])
  | .number a, .number b => if h : a = b then isTrue (h ▸ rfl) else isFalse (by simp [h])
  | .string a, .string b => if h : a = b then isTrue (h ▸ rfl) else isFalse (by simp [h])
  | .array a, .array b =>
    match decEqList a b with
    | isTrue h => isTrue (h ▸ rfl)
    | isFalse h => isFalse (by simp [h])
  | .object a, .object b =>
    match decEqFields a b with
    | isTrue h => isTrue (h ▸ rfl)
    | isFalse h => isFalse (by simp [h])
  | .null, .bool _ | .null, .number _ | .null, .string _ | .null, .array _ | .null, .object _
  | .bool _, .null | .bool _, .number _ | .bool _, .string _ | .bool _, .array _
  | .bool _, .object _ | .number _, .null | .number _, .bool _ | .number _, .string _
  | .number _, .array _ | .number _, .object _ | .string _, .null | .string _, .bool _
  | .string _, .number _ | .string _, .array _ | .string _, .object _ | .array _, .null
  | .array _, .bool _ | .array _, .number _ | .array _, .string _ | .array _, .object _
  | .object _, .null | .object _, .bool _ | .object _, .number _ | .object _, .string _
  | .object _, .array _ => isFalse (by simp)

def decEqList : (x y : List Json) → Decidable (x = y)
  | [], [] => isTrue rfl
  | a :: as, b :: bs =>
    match decEq a b with
    | isFalse h => isFalse (by simp [h])
    | isTrue h =>
      match decEqList as bs with
      | isTrue h' => isTrue (h ▸ h' ▸ rfl)
      | isFalse h' => isFalse (by simp [h'])
  | [], _ :: _ => isFalse (by simp)
  | _ :: _, [] => isFalse (by simp)

def decEqFields : (x y : Fields) → Decidable (x = y)
  | [], [] => isTrue rfl
  | (k, a) :: as, (l, b) :: bs =>
    if hk : k = l then
      match decEq a b with
      | isFalse h => isFalse (by simp [h])
      | isTrue h =>
        match decEqFields as bs with
        | isTrue h' => isTrue (hk ▸ h ▸ h' ▸ rfl)
        | isFalse h' => isFalse (by simp [h'])
    else isFalse (by simp [hk])
  | [], _ :: _ => isFalse (by simp)
  | _ :: _, [] => isFalse (by simp)

end

instance : DecidableEq Json := decEq

/-- The text of a string value. -/
def string? : Json → Option Text
  | .string s => some s
  | _ => none

/-- The items of an array value. -/
def array? : Json → Option (List Json)
  | .array items => some items
  | _ => none

/-- The kind of a value, in words. -/
def kindInWords : Json → Text
  | .null => "null"
  | .bool _ => "a boolean"
  | .number _ => "a number"
  | .string _ => "a string"
  | .array _ => "an array"
  | .object _ => "an object"

namespace Fields

/-- The keys in order. -/
def keys (fields : Fields) : List Text := fields.map Prod.fst

/-- The value of a key. -/
def get? (fields : Fields) (key : Text) : Option Json := fields.lookup key

/-- Sets the value of a key: in its place if the key is there, else at the end. -/
def set (fields : Fields) (key : Text) (value : Json) : Fields :=
  match fields with
  | [] => [(key, value)]
  | (k, v) :: rest => if k = key then (key, value) :: rest else (k, v) :: Fields.set rest key value

/-- Removes a key; the other fields keep their order. -/
def remove (fields : Fields) (key : Text) : Fields := fields.filter (fun field => field.1 ≠ key)

/-- The text of a key whose value is a string. -/
def string? (fields : Fields) (key : Text) : Option Text := (fields.get? key).bind Json.string?

end Fields

/-- The value of a key, if the value is an object that has it. -/
def field? (value : Json) (key : Text) : Option Json :=
  match value with
  | .object fields => Fields.get? fields key
  | _ => none

end Json

end BlockAudit
