import LiveChat.Json.Decode
import LiveChat.Text.Blank

/-!
# Chat platforms

Where a message came from, told by a free-form label or by the address of the chat. Every string is
some platform's label; the ones nobody knows belong to `unknown`.
-/

namespace LiveChat.Chat

open LiveChat.Text LiveChat.Json

inductive Platform where
  | twitch
  | youTube
  | kick
  | unknown
deriving DecidableEq, Repr, Inhabited

namespace Platform

def label : Platform → String
  | .twitch => "Twitch"
  | .youTube => "YouTube"
  | .kick => "Kick"
  | .unknown => "Unknown"

/-- Reads a label in any case of ASCII letters, with blanks around it. -/
def ofLabel (text : String) : Platform :=
  match asciiLower (trimmed text) with
  | "twitch" => .twitch
  | "youtube" => .youTube
  | "yt" => .youTube
  | "kick" => .kick
  | _ => .unknown

/-- The platform whose domain occurs in an address; the first of the list wins. -/
def ofUrl? (url : String) : Option Platform :=
  let url := (asciiLower url).toList
  if occursIn "twitch.tv".toList url then some .twitch
  else if occursIn "youtube.com".toList url || occursIn "youtu.be".toList url then some .youTube
  else if occursIn "kick.com".toList url then some .kick
  else none

def toJson (platform : Platform) : Json := .string platform.label

def decode (found : Outline) : Decoded Platform := found.asString.map ofLabel

end Platform

end LiveChat.Chat
