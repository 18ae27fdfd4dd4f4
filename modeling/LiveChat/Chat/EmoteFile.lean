import LiveChat.Chat.EmoteCache
import LiveChat.File

/-!
# Emotes from a file

A cache can be filled from a file with a JSON array of emotes. A file that cannot be read leaves the
cache as it is.
-/

namespace LiveChat.Chat

open LiveChat.Json

namespace EmoteCache

/-- Files the emotes of a JSON text, and says how many the text holds. -/
def loadText (cache : EmoteCache) (text : String) : Result (Nat × EmoteCache) :=
  match decodeText (Outline.asList Emote.decode) text with
  | .ok emotes => .ok (emotes.length, cache.insertAll emotes)
  | .error fault => .error (.config ("emote file: " ++ fault.message))

def loadFile (cache : EmoteCache) (state : FileState) : Result (Nat × EmoteCache) :=
  match state.readText with
  | .ok text => cache.loadText text
  | .error reason => .error (.io reason)

end EmoteCache

end LiveChat.Chat
