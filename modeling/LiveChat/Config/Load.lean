import LiveChat.Config.Codec
import LiveChat.File
import LiveChat.Toml.Reader

/-!
# Loading settings from files

Settings come from the file that the operator names, or else from the first of the usual places
where something stands, or else from nowhere. A file that cannot be read or understood is an error,
wherever it was found.
-/

namespace LiveChat.Config

/-- The usual places of a settings file: the user's own, and the one of the system. The user's
directory for settings must be given from the root on; without it the usual one in the home
counts. -/
def usualPaths (configHome home : Option String) : List String :=
  let directory :=
    match configHome.filter fun path => path.startsWith "/" with
    | some path => some path
    | none => home.map (· ++ "/.config")
  (directory.map (· ++ "/chatmux/config.toml")).toList ++ ["/etc/chatmux/config.toml"]

namespace Settings

def ofToml (text : String) : Result Settings :=
  match Toml.read? text with
  | none => .error (.config "invalid TOML")
  | some entries =>
      match Settings.decode .toml (Toml.Value.table .headed entries).outline with
      | .ok settings => .ok settings
      | .error fault => .error (.config fault.message)

def ofFile (path : String) (state : FileState) : Result Settings :=
  match state.readText with
  | .ok text => ofToml text
  | .error reason => .error (.config ("cannot read " ++ path ++ ": " ++ reason))

/-- Loads settings from the named file, or from the first of the usual places where something
stands. -/
def load (named : Option (String × FileState)) (usual : List (String × FileState)) :
    Result Settings :=
  match named with
  | some (path, state) => ofFile path state
  | none =>
      match usual.find? fun place => !place.2.isAbsent with
      | some (path, state) => ofFile path state
      | none => .ok .default

end Settings

end LiveChat.Config
