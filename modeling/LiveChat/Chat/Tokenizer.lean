import LiveChat.Chat.EmoteCache
import LiveChat.Chat.Markup

/-!
# Cutting a message into fragments

Behind its markup, a message is a row of words. A leading word with an exclamation mark is a
command, words and colon segments that name a cached emote are pictures, and everything between them
is joined into text with single spaces. Nothing here fails: markup that nobody knows is text.
-/

namespace LiveChat.Chat

open LiveChat.Text

/-- A piece of a word: a picture, or characters that go into the running text. -/
inductive Piece where
  /-- The first piece of a word is set off from the text before it. -/
  | text (opensWord : Bool) (chars : List Char)
  | picture (name : List Char) (emote : Emote)
deriving DecidableEq, Repr

def isColonWrapped (segment : List Char) : Bool :=
  3 ≤ byteLength segment && segment.head? == some ':' && segment.getLast? == some ':'

def segmentPiece (cache : EmoteCache) (opensWord : Bool) (segment : List Char) : Piece :=
  match if isColonWrapped segment then cache.get? (String.ofList segment) else none with
  | some emote => .picture segment emote
  | none => .text opensWord segment

def wordPieces (cache : EmoteCache) (word : List Char) : List Piece :=
  match cache.get? (String.ofList word) with
  | some emote => [.picture word emote]
  | none =>
      match colonSegments word with
      | [] => []
      | first :: rest => segmentPiece cache true first :: rest.map (segmentPiece cache false)

/-- A fragment for running text, unless it is empty. The text is given backwards. -/
def flushText (running : List Char) : List Fragment :=
  if running = [] then [] else [.plain .text running.reverse]

/-- Joins pieces into fragments; `running` is the text since the last picture, backwards. -/
def joinPieces : List Char → List Piece → List Fragment
  | running, [] => flushText running
  | running, .text opensWord chars :: rest =>
      if opensWord ∧ running ≠ [] then joinPieces (chars.reverse ++ ' ' :: running) rest
      else joinPieces (chars.reverse ++ running) rest
  | running, .picture name emote :: rest =>
      flushText running ++ .picture name emote :: joinPieces [] rest

/-- A word that begins with an exclamation mark and does not end there. -/
def isCommandWord (word : List Char) : Bool := word.head? == some '!' && 1 < word.length

/-- The fragments of words that are no commands. -/
def bodyFragments (cache : EmoteCache) (body : List (List Char)) : List Fragment :=
  joinPieces [] (body.flatMap (wordPieces cache))

/-- The fragments of a body; its first word may be a command unless markup came before it. -/
def wordFragments (cache : EmoteCache) (commandAllowed : Bool) :
    List (List Char) → List Fragment
  | [] => []
  | first :: rest =>
      if commandAllowed && isCommandWord first then
        .plain .command first :: bodyFragments cache rest
      else bodyFragments cache (first :: rest)

def tokenizeChars (cache : EmoteCache) (text : List Char) : List Fragment :=
  let (modifiers, body) := takeModifiers text
  modifiers.flatMap Modifier.fragments ++
    wordFragments cache modifiers.isEmpty (words body)

def tokenize (cache : EmoteCache) (text : String) : List Fragment := tokenizeChars cache text.toList

end LiveChat.Chat
