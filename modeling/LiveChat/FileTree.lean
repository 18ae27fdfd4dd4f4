import LiveChat.File
import LiveChat.Text.Ascii
import LiveChat.Text.Blank

/-!
# Paths through a tree of files

A path is followed name by name, from the root or from the directory in which the program works. An
empty name and a dot stay where they are, and two dots go up. The first name at which the way ends
decides what the path is said to lead to.
-/

namespace LiveChat

open LiveChat.Text

/-- A place in the tree: the names on the way to it, the last one first. -/
abbrev Place : Type := List String

/-- What is known of a tree of files. -/
structure FileTree where
  /-- All directories but the root. -/
  directories : List Place
  files : List (Place × ByteArray)
  /-- The directory at which a path starts that does not start at the root. -/
  workplace : Place

namespace FileTree

def lookup (tree : FileTree) (place : Place) : FileState :=
  if place = [] ∨ tree.directories.contains place then .directory
  else
    match tree.files.lookup place with
    | some bytes => .data bytes
    | none => .absent

/-- The longest name of a file, and the longest path, in bytes. -/
def longestName : Nat := 255

def longestPath : Nat := 4095

def follow (tree : FileTree) : List (List Char) → Place → FileState
  | [], _ => .directory
  | name :: rest, place =>
      if name = [] ∨ name = ['.'] then tree.follow rest place
      else if name = ['.', '.'] then tree.follow rest place.tail
      else if longestName < byteLength name then .unreachable .nameTooLong
      else
        let next := String.ofList name :: place
        match tree.lookup next with
        | .directory => tree.follow rest next
        | .data bytes => if rest = [] then .data bytes else .unreachable .notDirectory
        | other => other

def find (tree : FileTree) (path : String) : FileState :=
  let chars := path.toList
  if chars.contains '\x00' then .unreachable .holdsNul
  else if longestPath < byteLength chars then .unreachable .nameTooLong
  else
    match chars with
    | [] => .absent
    | '/' :: rest => tree.follow (pieces '/' rest) []
    | _ => tree.follow (pieces '/' chars) tree.workplace

end FileTree

end LiveChat
