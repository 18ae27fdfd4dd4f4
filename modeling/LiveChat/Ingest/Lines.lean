import LiveChat.Delivery.Relay
import LiveChat.Json.Reader

/-!
# The lines of a harvester

A harvester writes one message per line. A line counts if it is a JSON object in UTF-8; every other
line, whatever its bytes, is passed over without an effect on its neighbours.
-/

namespace LiveChat.Ingest

open LiveChat.Delivery

/-- The pieces of a stream between its line ends. A last piece counts only if it is not empty. -/
def segments : List UInt8 → List (List UInt8)
  | [] => []
  | byte :: rest =>
      if byte = 10 then [] :: segments rest
      else
        match segments rest with
        | [] => [[byte]]
        | first :: others => (byte :: first) :: others

/-- Whether a line is nothing but ASCII white space, the form feed included. -/
def isBlankLine (line : List UInt8) : Bool := line.all fun byte => [32, 9, 10, 12, 13].contains byte

def objectOf? (line : List UInt8) : Option Json :=
  if isBlankLine line then none
  else
    match String.fromUTF8? ⟨line.toArray⟩ with
    | none => none
    | some text =>
        match Json.read? text with
        | some (.object fields) => some (.object fields)
        | _ => none

/-- The objects of a stream in the order of their lines. -/
def objectsOf (stream : List UInt8) : List Json := (segments stream).filterMap objectOf?

/-- A relay and the number of lines that were delivered to it. -/
structure Feed where
  relay : Relay
  delivered : Nat

namespace Feed

/-- Takes in the lines of one harvester; the surroundings stamp each of them by its number. -/
def object (url : String) (stamp : Nat → Stamp) (feed : Feed) (value : Json) : Feed :=
  ⟨(feed.relay.deliver url value (stamp feed.delivered)).2, feed.delivered + 1⟩

def line (url : String) (stamp : Nat → Stamp) (feed : Feed) (line : List UInt8) : Feed :=
  match objectOf? line with
  | some value => feed.object url stamp value
  | none => feed

def stream (url : String) (stamp : Nat → Stamp) (feed : Feed) (stream : List UInt8) : Feed :=
  (segments stream).foldl (line url stamp) feed

end Feed

end LiveChat.Ingest
