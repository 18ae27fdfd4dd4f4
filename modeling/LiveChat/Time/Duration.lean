import LiveChat.Text.Ascii

/-!
# Durations

A span of time is a number of nanoseconds. The longest span that is used is just below `2 ^ 64`
seconds; doubling stops there.
-/

namespace LiveChat.Time

/-- A span of time in nanoseconds. -/
abbrev Duration := Nat

namespace Duration

def nanosPerSecond : Nat := 1000000000

/-- The longest span: `2 ^ 64 - 1` seconds and all but one of the nanoseconds of another. -/
def longest : Duration := UInt64.size * nanosPerSecond - 1

def ofMillis (millis : Nat) : Duration := millis * 1000000

def ofParts (seconds nanos : Nat) : Duration := seconds * nanosPerSecond + nanos

def toMillis (span : Duration) : Nat := span / 1000000

def double (span : Duration) : Duration := min (2 * span) longest

def text (span : Duration) : String :=
  String.ofList
    (Text.decimal (span / nanosPerSecond) ++ '.' :: Text.padded 9 (span % nanosPerSecond))

end Duration

end LiveChat.Time
