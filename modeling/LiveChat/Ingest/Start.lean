import LiveChat.FileTree

/-!
# Starting a harvester

A harvester is started by a command line: the path of a program, or the name of one on the search
path, and its arguments. Here is why that fails where no program is to be found. On the search path
a match that is no program is remembered while the search goes on.
-/

namespace LiveChat.Ingest

open LiveChat.Text

/-- What the system says of a match that cannot be run. -/
def deniedReason : String := "Permission denied (os error 13)"

/-- Why none of some paths starts a program. A path that is too long ends the search. -/
def searchFault (tree : FileTree) (denied : Bool) : List String → String
  | [] => if denied then deniedReason else FileState.absentReason
  | path :: rest =>
      match tree.find path with
      | .absent => searchFault tree denied rest
      | .unreachable .notDirectory => searchFault tree denied rest
      | .unreachable fault => fault.reason
      | _ => searchFault tree true rest

/-- Why a path or a name starts no program. -/
def programFault (tree : FileTree) (searchPath : List String) (program : String) : String :=
  if program = "" then FileState.absentReason
  else if program.toList.contains '/' then
    match tree.find program with
    | .absent => FileState.absentReason
    | .unreachable fault => fault.reason
    | _ => deniedReason
  else searchFault tree false (searchPath.map fun directory => directory ++ "/" ++ program)

/-- Why a command line cannot be handed over: a word ends where the character with the number zero
stands, so that none may hold it. -/
def wordFault? (words : List String) : Option String :=
  if words.any fun word => word.toList.contains '\x00' then
    some "nul byte found in provided data"
  else none

end LiveChat.Ingest
