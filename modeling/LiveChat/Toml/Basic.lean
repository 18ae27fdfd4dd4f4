import LiveChat.Json.Basic

/-!
# TOML documents as trees of tables

A table remembers how it came about, because that decides what may still be added to it: a table
with a header takes no second header, one from dotted keys takes only dotted keys, and an inline
table takes nothing more.
-/

namespace LiveChat.Toml

inductive TableStyle where
  /-- Written between braces. -/
  | inline
  /-- Named on the way in the header of another table. -/
  | implied
  /-- Named on the way in a dotted key. -/
  | dotted
  /-- Opened by a header of its own. -/
  | headed
deriving DecidableEq, Repr

inductive Value where
  | string (text : String)
  | integer (value : Int)
  | fraction
  | bool (value : Bool)
  /-- A date, a time of day, or both. -/
  | date
  | array (items : List Value)
  | table (style : TableStyle) (entries : List (String × Value))
  /-- Tables under one header with double brackets, the last one first. -/
  | tables (elements : List (List (String × Value)))
deriving Repr

mutual

/-- How deep the brackets and braces of a value are nested. A table from a dotted key has none. -/
def Value.nesting : Value → Nat
  | .array items => nestingOfItems items + 1
  | .table .inline entries => nestingOfEntries entries + 1
  | .table _ entries => nestingOfEntries entries
  | _ => 0

def nestingOfItems : List Value → Nat
  | [] => 0
  | item :: rest => max item.nesting (nestingOfItems rest)

def nestingOfEntries : List (String × Value) → Nat
  | [] => 0
  | (_, value) :: rest => max value.nesting (nestingOfEntries rest)

end

abbrev Entries : Type := List (String × Value)

namespace Entries

def find? (key : String) (entries : Entries) : Option Value :=
  (List.find? (fun entry => entry.1 == key) entries).map (·.2)

/-- Puts a value under a key, in the place of an earlier one or at the end. -/
def put (key : String) (value : Value) : Entries → Entries
  | [] => [(key, value)]
  | (other, old) :: rest =>
      if other = key then (key, value) :: rest else (other, old) :: put key value rest

/-- Changes the table at the end of a path and makes the tables on the way where they are missing.
With `dotted` the path comes from a dotted key and leaves tables with a header alone. -/
def alterAt (dotted : Bool) (change : TableStyle → Entries → Option Entries) (style : TableStyle) :
    List String → Entries → Option Entries
  | [], entries => change style entries
  | key :: path, entries =>
      match find? key entries with
      | none => do
          let made := if dotted then TableStyle.dotted else .implied
          let child ← alterAt dotted change made path []
          return put key (.table made child) entries
      | some (.table found child) =>
          if found = .inline ∨ (dotted ∧ found = .headed) then none
          else do
            let child ← alterAt dotted change found path child
            return put key (.table found child) entries
      | some (.tables (last :: earlier)) => do
          let child ← alterAt dotted change .headed path last
          return put key (.tables (child :: earlier)) entries
      | some _ => none

def assign (path : List String) (key : String) (value : Value) (entries : Entries) :
    Option Entries :=
  alterAt true
    (fun style target =>
      if (path ≠ [] ∧ style ≠ .dotted) ∨ (find? key target).isSome then none
      else some (put key value target))
    .headed path entries

def openTable (path : List String) (key : String) (entries : Entries) : Option Entries :=
  alterAt false
    (fun _ parent =>
      match find? key parent with
      | none => some (put key (.table .headed []) parent)
      | some (.table .implied child) => some (put key (.table .headed child) parent)
      | some _ => none)
    .headed path entries

def openElement (path : List String) (key : String) (entries : Entries) : Option Entries :=
  alterAt false
    (fun _ parent =>
      match find? key parent with
      | none => some (put key (.tables [[]]) parent)
      | some (.tables elements) => some (put key (.tables ([] :: elements)) parent)
      | some _ => none)
    .headed path entries

end Entries

open LiveChat.Json in
mutual

/-- The outline of a value for decoding. A date stands where a table with a single unknown key
could, and a number that is no integer has no value. -/
def Value.outline : Value → Outline
  | .string text => .string (some text)
  | .integer value => .number (some (.integer value))
  | .fraction => .number none
  | .bool value => .bool value
  | .date => .object [(some "date", .null)]
  | .array items => .array (outlineItems items)
  | .table _ entries => .object (outlineEntries entries)
  | .tables elements => .array (outlineElements elements).reverse

def outlineItems : List Value → List Outline
  | [] => []
  | item :: rest => item.outline :: outlineItems rest

def outlineEntries : List (String × Value) → List (Option String × Outline)
  | [] => []
  | (key, value) :: rest => (some key, value.outline) :: outlineEntries rest

def outlineElements : List (List (String × Value)) → List Outline
  | [] => []
  | element :: rest => .object (outlineEntries element) :: outlineElements rest

end

end LiveChat.Toml
