import LiveChat.Chat.Emote
import Std.Data.ExtTreeMap

/-!
# The emote cache

The emotes that messages have brought along so far, by name. The cache is bounded: when it is full,
a name that is not in it empties it first.
-/

namespace LiveChat.Chat

structure EmoteCache where
  /-- The greatest number of names, at least one. -/
  capacity : Nat
  byName : Std.ExtTreeMap String Emote

namespace EmoteCache

def defaultCapacity : Nat := 50000

def withCapacity (capacity : Nat) : EmoteCache := ⟨max capacity 1, ∅⟩

def empty : EmoteCache := withCapacity defaultCapacity

def get? (cache : EmoteCache) (name : String) : Option Emote := cache.byName[name]?

def contains (cache : EmoteCache) (name : String) : Bool := cache.byName.contains name

def size (cache : EmoteCache) : Nat := cache.byName.size

/-- Files an emote under its name. An emote without a name is passed over. -/
def insert (cache : EmoteCache) (emote : Emote) : EmoteCache :=
  if emote.name = "" then cache
  else
    let kept :=
      if !cache.contains emote.name && cache.capacity ≤ cache.size then ∅ else cache.byName
    { cache with byName := kept.insert emote.name emote }

def insertAll (cache : EmoteCache) (emotes : List Emote) : EmoteCache := emotes.foldl insert cache

end EmoteCache

end LiveChat.Chat
