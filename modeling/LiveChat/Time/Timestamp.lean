import LiveChat.Json.Decode
import LiveChat.Text.Blank
import LiveChat.Time.Calendar

/-!
# Points in time

A point in time is a second since 1970 and nanoseconds within it. The nanoseconds go on beyond a
second during a leap second, which is written as the sixtieth. Stored rows keep milliseconds; texts
follow RFC 3339, and reading is lenient about blanks.
-/

namespace LiveChat.Time

open LiveChat.Text LiveChat.Json

structure Timestamp where
  seconds : Int
  nanos : Nat
deriving DecidableEq, Repr

namespace Timestamp

def secondsPerDay : Int := 86400

/-- The first and the last second that the clock covers. -/
def firstSecond : Int := (Date.mk (-262143) 1 1).toDays * secondsPerDay

def lastSecond : Int := (Date.mk 262142 12 31).toDays * secondsPerDay + 86399

def ofNanos (nanos : Int) : Timestamp :=
  ⟨nanos.fdiv 1000000000, (nanos.fmod 1000000000).toNat⟩

/-- Milliseconds since 1970, rounded down. -/
def toMillis (time : Timestamp) : Int := time.seconds * 1000 + (time.nanos / 1000000 : Nat)

/-- The point in time of a number of milliseconds, if the clock covers it. -/
def ofMillis? (millis : Int) : Option Timestamp :=
  let seconds := millis.fdiv 1000
  if firstSecond ≤ seconds ∧ seconds ≤ lastSecond then
    some ⟨seconds, (millis.fmod 1000).toNat * 1000000⟩
  else none

/-- The point in time cut to whole milliseconds, where the clock covers the result. -/
def truncated (time : Timestamp) : Timestamp := (ofMillis? time.toMillis).getD time

/-- Four digits, and more with a sign for years outside of four digits. -/
def yearText (year : Int) : List Char :=
  if 0 ≤ year ∧ year ≤ 9999 then padded 4 year.natAbs
  else (if year < 0 then '-' else '+') :: padded 4 year.natAbs

/-- Nothing, or a point and three, six or nine digits. -/
def fractionText (nanos : Nat) : List Char :=
  if nanos = 0 then []
  else if nanos % 1000000 = 0 then '.' :: padded 3 (nanos / 1000000)
  else if nanos % 1000 = 0 then '.' :: padded 6 (nanos / 1000)
  else '.' :: padded 9 nanos

def text (time : Timestamp) : String :=
  let date := Date.ofDays (time.seconds.fdiv secondsPerDay)
  let second := (time.seconds.fmod secondsPerDay).toNat
  let leap := time.nanos ≥ 1000000000
  let shown := if leap then second % 60 + 1 else second % 60
  String.ofList
    (yearText date.year ++ '-' :: padded 2 date.month ++ '-' :: padded 2 date.day ++ 'T' ::
      padded 2 (second / 3600) ++ ':' :: padded 2 (second / 60 % 60) ++ ':' :: padded 2 shown ++
      fractionText (if leap then time.nanos - 1000000000 else time.nanos) ++ ['Z'])

def takeNumber? (most : Nat) (text : List Char) : Option (Nat × List Char) := do
  let text := trimStart text
  let digits := (text.take most).takeWhile Char.isDigit
  let value ← naturalOf? digits
  return (value, text.drop digits.length)

/-- A year: four digits at most, or any number of them behind a sign. -/
def takeYear? (text : List Char) : Option (Int × List Char) :=
  match trimStart text with
  | '-' :: rest => signed rest (-1)
  | '+' :: rest => signed rest 1
  | rest => (takeNumber? 4 rest).map fun found => ((found.1 : Int), found.2)
where
  /-- Digits directly behind a sign. -/
  signed (rest : List Char) (sign : Int) : Option (Int × List Char) := do
    let digits := rest.takeWhile Char.isDigit
    let value ← naturalOf? digits
    return (sign * value, rest.drop digits.length)

def takeMark? (mark : Char) (text : List Char) : Option (List Char) :=
  match trimStart text with
  | char :: rest => if char = mark then some rest else none
  | [] => none

/-- The nanoseconds of a fraction behind a point; digits beyond the ninth are cut off. -/
def takeFraction? : List Char → Option (Nat × List Char)
  | '.' :: rest => do
      let digits := rest.takeWhile Char.isDigit
      let kept := digits.take 9
      let value ← naturalOf? kept
      return (value * Nat.pow 10 (9 - kept.length), rest.drop digits.length)
  | text => some (0, text)

def takeTwo? : List Char → Option (Nat × List Char)
  | first :: second :: rest => do
      let value ← naturalOf? [first, second]
      return (value, rest)
  | _ => none

/-- The distance from universal time in seconds, as a letter, a word or hours and minutes. -/
def takeOffset? (text : List Char) : Option (Int × List Char) :=
  let text := trimStart text
  if (text.take 3).map Char.toLower = ['u', 't', 'c'] then some (0, text.drop 3)
  else
    match text with
    | [] => none
    | mark :: rest =>
        if mark = 'Z' ∨ mark = 'z' then some (0, rest)
        else if mark = '+' then shifted 1 rest
        else if mark = '-' ∨ mark = '−' then shifted (-1) rest
        else none
where
  /-- Hours and minutes behind a sign, with colons or blanks between them. -/
  shifted (sign : Int) (text : List Char) : Option (Int × List Char) := do
    let (hours, text) ← takeTwo? text
    let (minutes, text) ← takeTwo? (text.dropWhile fun char => char = ':' || isBlank char)
    if minutes < 60 ∧ hours < 24 then return (sign * (hours * 3600 + minutes * 60 : Nat), text)
    else none

def ofText? (text : String) : Option Timestamp := do
  let (year, text) ← takeYear? text.toList
  let text ← takeMark? '-' text
  let (month, text) ← takeNumber? 2 text
  let text ← takeMark? '-' text
  let (day, text) ← takeNumber? 2 text
  let text ← match text with
    | mark :: rest => if mark = 'T' ∨ mark = 't' ∨ mark = ' ' then some rest else none
    | [] => none
  let (hour, text) ← takeNumber? 2 text
  let text ← takeMark? ':' text
  let (minute, text) ← takeNumber? 2 text
  let text ← takeMark? ':' text
  let (second, text) ← takeNumber? 2 text
  let (nanos, text) ← takeFraction? text
  let (offset, text) ← takeOffset? text
  let date : Date := ⟨year, month, day⟩
  if !date.isValid || 23 < hour || 59 < minute || 60 < second || trimStart text != [] then none
  else
    let leap := if second = 60 then 1 else 0
    let wallClock :=
      date.toDays * secondsPerDay + (hour * 3600 + minute * 60 + (second - leap) : Nat)
    let seconds := wallClock - offset
    if firstSecond ≤ seconds ∧ seconds ≤ lastSecond then
      some ⟨seconds, nanos + leap * 1000000000⟩
    else none

def toJson (time : Timestamp) : Json := .string time.text

def decode (found : Outline) : Decoded Timestamp := do
  let text ← found.asString
  match ofText? text with
  | some time => return time
  | none => .error (.invalidValue found.kind "a point in time")

end Timestamp

end LiveChat.Time
