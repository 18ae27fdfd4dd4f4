import LiveChat.Json.Reader
import LiveChat.Text.Quoted

/-!
# Decoding records from JSON

A record is written as an object of its fields or as an array of them in their order. Fields with a
default may be missing, unknown fields are passed over without a look at their value, and a field
that is given twice is an error. The first fault in the order of the text decides.
-/

namespace LiveChat.Json

open LiveChat.Text

inductive DecodeError where
  | invalidType (found : String) (expected : String)
  | invalidValue (found : String) (expected : String)
  | invalidLength (count : Nat) (expected : String)
  | unknownVariant (name : String) (known : List String)
  | duplicateField (name : String)
  | missingField (name : String)
  /-- A text that is no JSON, or a part of it that stands for no value. -/
  | unreadable
deriving DecidableEq, Repr

/-- Names as an enumeration of what would have been right. -/
def alternatives (names : List String) : String :=
  match names.map fun name => "\x60" ++ name ++ "\x60" with
  | [] => "there are no variants"
  | [first, second] => first ++ " or " ++ second
  | [single] => single
  | several => "one of " ++ String.intercalate ", " several

def DecodeError.message : DecodeError → String
  | .invalidType found expected => "invalid type: " ++ found ++ ", expected " ++ expected
  | .invalidValue found expected => "invalid value: " ++ found ++ ", expected " ++ expected
  | .invalidLength count expected =>
      "invalid length " ++ toString count ++ ", expected " ++ expected
  | .unknownVariant name known =>
      "unknown variant \x60" ++ name ++ "\x60, expected " ++ alternatives known
  | .duplicateField name => "duplicate field \x60" ++ name ++ "\x60"
  | .missingField name => "missing field \x60" ++ name ++ "\x60"
  | .unreadable => "unreadable text"

abbrev Decoded (α : Type) : Type := Except DecodeError α

/-- What a format allows where records and names are written. -/
structure Dialect where
  /-- An array of fields may go on behind the last field. -/
  spareItems : Bool
  /-- A name that is written as a key may have an empty array or object as its value. -/
  emptyContent : Bool
deriving DecidableEq, Repr

/-- JSON is strict. -/
def Dialect.json : Dialect := ⟨false, false⟩

/-- TOML has no null, and its arrays are read only as far as they are needed. -/
def Dialect.toml : Dialect := ⟨true, true⟩

namespace Outline

/-- How a message names what was found. -/
def kind : Outline → String
  | .null => "null"
  | .bool value => "boolean \x60" ++ toString value ++ "\x60"
  | .number (some (.integer value)) =>
      "integer \x60" ++ String.ofList (signedDecimal value) ++ "\x60"
  | .number (some value) => "floating point \x60" ++ String.ofList value.text ++ "\x60"
  | .number none => "number"
  | .string (some value) => "string " ++ quoted value
  | .string none => "string"
  | .array _ => "sequence"
  | .object _ => "map"

/-- The fault of finding something else than was expected. -/
def mismatch (found : Outline) (expected : String) : DecodeError :=
  match found with
  | .number none => .unreadable
  | .string none => .unreadable
  | other => .invalidType other.kind expected

def asString : Outline → Decoded String
  | .string (some value) => .ok value
  | other => .error (other.mismatch "a string")

def asBool : Outline → Decoded Bool
  | .bool value => .ok value
  | other => .error (other.mismatch "a boolean")

/-- An integer between two bounds. -/
def asInteger (lowest highest : Int) (expected : String) : Outline → Decoded Int
  | .number (some (.integer value)) =>
      if lowest ≤ value ∧ value ≤ highest then .ok value
      else .error (.invalidValue (Outline.number (some (.integer value))).kind expected)
  | other => .error (other.mismatch expected)

def asNatural (bound : Nat) (expected : String) (found : Outline) : Decoded Nat :=
  (found.asInteger 0 ((bound : Int) - 1) expected).map Int.toNat

def asOption {α : Type} (decode : Outline → Decoded α) : Outline → Decoded (Option α)
  | .null => .ok none
  | other => (decode other).map some

def asList {α : Type} (decode : Outline → Decoded α) : Outline → Decoded (List α)
  | .array items => items.mapM decode
  | other => .error (other.mismatch "a sequence")

/-- Any value, nested at most `limit` deep. -/
def asValue (limit : Nat) (found : Outline) : Decoded Json :=
  match found.value? limit with
  | some value => .ok value
  | none => .error .unreadable

/-- Nothing: null, or an empty container in a dialect that has it for null. -/
def asUnit (dialect : Dialect) (found : Outline) : Decoded Unit :=
  match found, dialect.emptyContent with
  | .null, _ => .ok ()
  | .array [], true => .ok ()
  | .object [], true => .ok ()
  | other, _ => .error (other.mismatch "unit")

/-- One of a number of names, written as a string or as the only key of an object, which then maps
it to nothing. -/
def asVariant {α : Type} (dialect : Dialect) (variants : List (String × α)) :
    Outline → Decoded α
  | .string (some name) => named name
  | .object [(none, _)] => .error .unreadable
  | .object [(some name, content)] => do
      let value ← named name
      content.asUnit dialect
      return value
  | .object _ => .error (.invalidValue "map" "map with a single key")
  | other => .error (other.mismatch "string or map")
where
  named (name : String) : Decoded α :=
    match variants.lookup name with
    | some value => .ok value
    | none => .error (.unknownVariant name (variants.map (·.1)))

end Outline

/-- A field of a record under construction. -/
structure RecordField (ρ : Type) where
  /-- The name of the field, followed by its other names. -/
  names : List String
  /-- A record written as an object must name the field. -/
  required : Bool
  /-- Decodes the value and puts it into the record. -/
  put : ρ → Outline → Decoded ρ

namespace RecordField

variable {ρ : Type}

/-- The name by which messages call the field. -/
def name (field : RecordField ρ) : String := field.names.headD ""

/-- Takes the entries of an object in their order. The names of the fields met so far are returned
with the record. -/
def putEntries (fields : List (RecordField ρ)) :
    List (Option String × Outline) → ρ → List String → Decoded (ρ × List String)
  | [], record, met => .ok (record, met)
  | (none, _) :: _, _, _ => .error .unreadable
  | (some key, value) :: rest, record, met =>
      match fields.find? fun field => field.names.contains key with
      | none => putEntries fields rest record met
      | some field =>
          if met.contains field.name then .error (.duplicateField field.name)
          else
            match field.put record value with
            | .error fault => .error fault
            | .ok record => putEntries fields rest record (field.name :: met)

/-- How a message calls a record that is to be read from an array. -/
def arrayTitle (title : String) (fields : List (RecordField ρ)) : String :=
  title ++ " with " ++ toString fields.length ++
    if fields.length = 1 then " element" else " elements"

/-- Takes the items of an array as the fields in their order. `title` is how a message calls the
record, and `count` is the number of all items. -/
def putItems (dialect : Dialect) (title : String) (count : Nat) :
    List (RecordField ρ) → List Outline → ρ → Decoded ρ
  | [], [], record => .ok record
  | [], _ :: _, record =>
      if dialect.spareItems then .ok record
      else .error (.invalidLength count "fewer elements in array")
  | field :: fields, [], record =>
      if field.required then .error (.invalidLength count title)
      else putItems dialect title count fields [] record
  | field :: fields, item :: items, record =>
      match field.put record item with
      | .error fault => .error fault
      | .ok record => putItems dialect title count fields items record

end RecordField

/-- Decodes a record from its fields, starting with the defaults. -/
def decodeRecord {ρ : Type} (dialect : Dialect) (title : String)
    (fields : List (RecordField ρ)) (start : ρ) : Outline → Decoded ρ
  | .object entries =>
      match RecordField.putEntries fields entries start [] with
      | .error fault => .error fault
      | .ok (record, met) =>
          match fields.find? fun field => field.required && !met.contains field.name with
          | some field => .error (.missingField field.name)
          | none => .ok record
  | .array items =>
      RecordField.putItems dialect (RecordField.arrayTitle title fields) items.length fields items
        start
  | other => .error (other.mismatch title)

/-- Decodes the value of a JSON text. -/
def decodeText {α : Type} (decode : Outline → Decoded α) (text : String) : Decoded α :=
  match Outline.read? text with
  | some outline => decode outline
  | none => .error .unreadable

end LiveChat.Json
