import LiveChat.Json.Number

/-!
# JSON values and the shape of a JSON text

A text is read in two steps. Its *outline* holds everything the text says, with the fields of an
object in the order and number in which they stand; a string with half a surrogate pair or a numeral
that is too large is part of a well-formed outline although it stands for no value. A *value* is
what remains when every part has a meaning, and each object names each field once, in ascending
order.
-/

namespace LiveChat

inductive Json where
  | null
  | bool (value : Bool)
  | number (value : Json.Number)
  | string (value : String)
  | array (items : List Json)
  | object (fields : List (String × Json))
deriving Repr

namespace Json

/-- What a well-formed JSON text says, part by part. -/
inductive Outline where
  | null
  | bool (value : Bool)
  | number (value : Option Number)
  | string (value : Option String)
  | array (items : List Outline)
  | object (fields : List (Option String × Outline))
deriving Repr

/-- Sets a field in an ascending list of fields; an earlier value under the name is replaced. -/
def setField {α : Type} (name : String) (value : α) : List (String × α) → List (String × α)
  | [] => [(name, value)]
  | (other, old) :: rest =>
      if name = other then (name, value) :: rest
      else if name < other then (name, value) :: (other, old) :: rest
      else (other, old) :: setField name value rest

/-- The fields in ascending order, the last value under each name. -/
def sortFields {α : Type} (fields : List (String × α)) : List (String × α) :=
  fields.foldl (fun sorted field => setField field.1 field.2 sorted) []

def ofFields (fields : List (String × Json)) : Json := .object (sortFields fields)

def ofInt (value : Int) : Json := .number (.integer value)

def ofNat (value : Nat) : Json := .number (.integer value)

def ofChars (text : List Char) : Json := .string (String.ofList text)

/-- An absent value is null. -/
def ofOption {α : Type} (encode : α → Json) : Option α → Json
  | none => .null
  | some value => encode value

/-- The value under a name, where the value is an object with such a field. -/
def get? (name : String) : Json → Option Json
  | .object fields => (fields.find? fun field => field.1 == name).map (·.2)
  | _ => none

def string? : Json → Option String
  | .string text => some text
  | _ => none

def integer? : Json → Option Int
  | .number (.integer value) => some value
  | _ => none

/-- The items of an array; no other value has any. -/
def items : Json → List Json
  | .array items => items
  | _ => []

mutual

def outline : Json → Outline
  | .null => .null
  | .bool value => .bool value
  | .number value => .number (some value)
  | .string value => .string (some value)
  | .array items => .array (outlineItems items)
  | .object fields => .object (outlineFields fields)

def outlineItems : List Json → List Outline
  | [] => []
  | item :: rest => item.outline :: outlineItems rest

def outlineFields : List (String × Json) → List (Option String × Outline)
  | [] => []
  | (name, value) :: rest => (some name, value.outline) :: outlineFields rest

end

namespace Outline

mutual

/-- The value of an outline, if each of its parts has one and its containers are nested at most
`limit` deep. -/
def value? (limit : Nat) : Outline → Option Json
  | .null => some .null
  | .bool value => some (.bool value)
  | .number value => value.map .number
  | .string value => value.map .string
  | .array items =>
      match limit with
      | 0 => none
      | depth + 1 => (itemValues? depth items).map .array
  | .object fields =>
      match limit with
      | 0 => none
      | depth + 1 => (fieldValues? depth fields).map ofFields

def itemValues? (limit : Nat) : List Outline → Option (List Json)
  | [] => some []
  | item :: rest => do
      let value ← item.value? limit
      let values ← itemValues? limit rest
      return value :: values

def fieldValues? (limit : Nat) : List (Option String × Outline) → Option (List (String × Json))
  | [] => some []
  | (name, item) :: rest => do
      let name ← name
      let value ← item.value? limit
      let values ← fieldValues? limit rest
      return (name, value) :: values

end

end Outline

/-- How deep the containers of a text may be nested for it to have a value. -/
def maxDepth : Nat := 127

end Json

end LiveChat
