import LiveChat.Config.Settings

/-!
# The command line

Every option overrides the matching setting, and each may also be given by an environment variable,
which counts only where the option itself is absent. An option's value stands behind it as the next
word, or is attached to it with an equals sign; behind a single letter the sign may be left out.
-/

namespace LiveChat.CommandLine

open LiveChat.Text LiveChat.Config

/-- Why a command line is not carried out. -/
inductive UsageError where
  /-- A value that does not mean what its option asks for. -/
  | valueValidation
  /-- A value that is missing, or not among those that are possible. -/
  | invalidValue
  | unknownArgument
  /-- An option that is given twice. -/
  | argumentConflict
  /-- A value for an option that takes none. -/
  | tooManyValues
  | displayHelp
  | displayVersion
deriving DecidableEq, Repr

def UsageError.kind : UsageError → String
  | .valueValidation => "ValueValidation"
  | .invalidValue => "InvalidValue"
  | .unknownArgument => "UnknownArgument"
  | .argumentConflict => "ArgumentConflict"
  | .tooManyValues => "TooManyValues"
  | .displayHelp => "DisplayHelp"
  | .displayVersion => "DisplayVersion"

inductive Flag where
  | config
  | port
  | bind
  | dbMode
  | dbPath
  | chatUrls
  | harvesterBin
  | tailer
deriving DecidableEq, Repr

/-- What a word asks for. -/
inductive Request where
  | help
  | version
  | flag (flag : Flag)
deriving DecidableEq, Repr

namespace Flag

/-- All options, in the order in which the environment is asked for them. -/
def all : List Flag := [.config, .port, .bind, .dbMode, .dbPath, .chatUrls, .harvesterBin, .tailer]

def environmentName : Flag → String
  | .config => "CHATMUX_CONFIG"
  | .port => "CHATMUX_PORT"
  | .bind => "CHATMUX_BIND"
  | .dbMode => "CHATMUX_DB_MODE"
  | .dbPath => "CHATMUX_DB_PATH"
  | .chatUrls => "CHAT_URLS"
  | .harvesterBin => "CHATMUX_HARVESTER_BIN"
  | .tailer => "CHATMUX_TAILER_ENABLED"

end Flag

def requestOfName? : String → Option Request
  | "help" => some .help
  | "version" => some .version
  | "config" => some (.flag .config)
  | "port" => some (.flag .port)
  | "bind" => some (.flag .bind)
  | "db-mode" => some (.flag .dbMode)
  | "db-path" => some (.flag .dbPath)
  | "chat-urls" => some (.flag .chatUrls)
  | "harvester-bin" => some (.flag .harvesterBin)
  | "tailer" => some (.flag .tailer)
  | _ => none

def requestOfLetter? : Char → Option Request
  | 'h' => some .help
  | 'V' => some .version
  | 'c' => some (.flag .config)
  | 'p' => some (.flag .port)
  | _ => none

/-- All options, one a line. -/
def helpText : String :=
  "Unified live chat relay\n\n" ++
  "  -c, --config PATH         settings file\n" ++
  "  -p, --port PORT           port to listen on\n" ++
  "      --bind ADDRESS        address to bind\n" ++
  "      --db-mode MODE        ephemeral or persistent\n" ++
  "      --db-path PATH        database file, needed in persistent mode\n" ++
  "      --chat-urls URLS      addresses of chats, with commas between them\n" ++
  "      --harvester-bin BIN   harvester to run\n" ++
  "      --tailer BOOL         broadcast rows of other programs\n" ++
  "  -h, --help                print this help\n" ++
  "  -V, --version             print the version"

structure Arguments where
  config : Option String
  port : Option Nat
  bind : Option String
  dbMode : Option StorageMode
  dbPath : Option String
  chatUrls : List String
  harvesterBin : Option String
  tailer : Option Bool
deriving DecidableEq, Repr

namespace Arguments

def empty : Arguments := ⟨none, none, none, none, none, [], none, none⟩

def readPath (value : String) : Except UsageError String :=
  if value = "" then .error .invalidValue else .ok value

/-- A port is written in decimal, perhaps with a sign. -/
def readPort (value : String) : Except UsageError Nat :=
  let (negative, digits) :=
    match value.toList with
    | '-' :: rest => (true, rest)
    | '+' :: rest => (false, rest)
    | digits => (false, digits)
  match naturalOf? digits with
  | some port =>
      if port < UInt16.size ∧ (!negative ∨ port = 0) then .ok port else .error .valueValidation
  | none => .error .valueValidation

def readMode (value : String) : Except UsageError StorageMode :=
  match StorageMode.ofText value with
  | .ok mode => .ok mode
  | .error _ => .error .valueValidation

def readBool : String → Except UsageError Bool
  | "true" => .ok true
  | "false" => .ok false
  | _ => .error .invalidValue

def put (arguments : Arguments) (value : String) : Flag → Except UsageError Arguments
  | .config => return { arguments with config := some (← readPath value) }
  | .port => return { arguments with port := some (← readPort value) }
  | .bind => return { arguments with bind := some value }
  | .dbMode => return { arguments with dbMode := some (← readMode value) }
  | .dbPath => return { arguments with dbPath := some (← readPath value) }
  | .chatUrls =>
      return { arguments with
        chatUrls := arguments.chatUrls ++ (pieces ',' value.toList).map String.ofList }
  | .harvesterBin => return { arguments with harvesterBin := some value }
  | .tailer => return { arguments with tailer := some (← readBool value) }

def apply (arguments : Arguments) (settings : Settings) : Settings :=
  { settings with
    server.port := arguments.port.getD settings.server.port
    server.bindAddr := arguments.bind.getD settings.server.bindAddr
    storage.mode := arguments.dbMode.getD settings.storage.mode
    storage.path := arguments.dbPath.or settings.storage.path
    ingest.chatUrls :=
      if arguments.chatUrls = [] then settings.ingest.chatUrls else arguments.chatUrls
    ingest.bin := arguments.harvesterBin.getD settings.ingest.bin
    tailer.enabled := arguments.tailer.getD settings.tailer.enabled }

end Arguments

structure Reading where
  arguments : Arguments
  given : List Flag
  /-- An option whose value is awaited, or has come but was not looked at yet. -/
  pending : Option (Flag × Option String)
  /-- All further words are no options. -/
  trailing : Bool

namespace Reading

def start : Reading := ⟨.empty, [], none, false⟩

/-- Takes a value. Only addresses may be given more than once. -/
def take (reading : Reading) (flag : Flag) (value : String) : Except UsageError Reading :=
  if reading.given.contains flag ∧ flag ≠ .chatUrls then .error .argumentConflict
  else do
    let arguments ← reading.arguments.put value flag
    return { reading with arguments := arguments, given := flag :: reading.given, pending := none }

/-- Looks at the value of the pending option. -/
def settle (reading : Reading) : Except UsageError Reading :=
  match reading.pending with
  | none => .ok reading
  | some (_, none) => .error .invalidValue
  | some (flag, some value) => reading.take flag value

def request (reading : Reading) (request : Request) (attached : Option String) :
    Except UsageError Reading :=
  match request, attached with
  | .help, some _ => .error .tooManyValues
  | .version, some _ => .error .tooManyValues
  | .help, none => reading.settle.bind fun _ => .error .displayHelp
  | .version, none => reading.settle.bind fun _ => .error .displayVersion
  | .flag flag, some value => reading.settle.bind fun settled => settled.take flag value
  | .flag flag, none =>
      reading.settle.map fun settled => { settled with pending := some (flag, none) }

def longWord (reading : Reading) (word : List Char) : Except UsageError Reading :=
  let (name, attached) :=
    match splitOnce '=' word with
    | some (name, value) => (name, some (String.ofList value))
    | none => (word, none)
  match requestOfName? (String.ofList name) with
  | some request => reading.request request attached
  | none => .error .unknownArgument

def shortWord (reading : Reading) (letter : Char) (rest : List Char) :
    Except UsageError Reading :=
  match requestOfLetter? letter with
  | none => .error .unknownArgument
  | some (.flag flag) =>
      let attached :=
        match rest with
        | [] => none
        | '=' :: value => some (String.ofList value)
        | value => some (String.ofList value)
      reading.request (.flag flag) attached
  | some request => reading.request request none

/-- A word that is no option: the awaited value, or an argument that nobody takes. -/
def plainWord (reading : Reading) (word : List Char) : Except UsageError Reading :=
  match reading.pending with
  | some (flag, none) =>
      .ok { reading with pending := some (flag, some (String.ofList word)) }
  | _ => .error .unknownArgument

def step (reading : Reading) (word : String) : Except UsageError Reading :=
  if reading.trailing then .error .unknownArgument
  else
    match word.toList with
    | ['-', '-'] => .ok { reading with trailing := true }
    | '-' :: '-' :: rest => reading.longWord rest
    | '-' :: letter :: rest => reading.shortWord letter rest
    | chars => reading.plainWord chars

/-- Asks the environment for the options that are absent. -/
def askEnvironment (environment : String → Option String) (reading : Reading) :
    Except UsageError Reading :=
  Flag.all.foldlM
    (fun reading flag =>
      if reading.given.contains flag then .ok reading
      else
        match environment flag.environmentName with
        | some value => reading.take flag value
        | none => .ok reading)
    reading

end Reading

/-- Reads a command line without the name of the program. -/
def read (words : List String) (environment : String → Option String) :
    Except UsageError Arguments := do
  let reading ← words.foldlM Reading.step .start
  let reading ← reading.settle
  let reading ← reading.askEnvironment environment
  return reading.arguments

end LiveChat.CommandLine
