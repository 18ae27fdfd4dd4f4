import LiveChat.Config.Codec
import LiveChat.Delivery.Relay
import LiveChat.Serve.Frame
import LiveChat.Serve.Origin
import LiveChat.Serve.Query
import LiveChat.Serve.Response

/-!
# Requests

There is a probe, a page with the settings in use, and the stream of messages, which asks for a
change of protocol. Requests about what is allowed are answered everywhere.
-/

namespace LiveChat.Serve

open LiveChat.Config LiveChat.Delivery LiveChat.Text LiveChat.Json

/-- The version that the page of settings shows. -/
def version : String := "0.1.0"

structure Request where
  method : String
  address : String
  origin : Option String
  /-- The request asks for a change of protocol. -/
  upgrade : Bool
deriving DecidableEq, Repr

/-- The page with the settings in use. The time since the start is in seconds. -/
def settingsPage (settings : Settings) (hub : Hub) (uptime : Nat) : Json :=
  .object
    [("version", .string version), ("uptime_seconds", .ofNat uptime),
     ("subscribers", .ofNat hub.registeredCount), ("dropped_payloads", .ofNat hub.dropped),
     ("config", settings.redacted.toJson)]

/-- What comes of a request for the stream: an answer, or a stream with a filter. -/
inductive StreamAnswer where
  | refused (response : Response)
  | opened (filter : Option String)
deriving DecidableEq, Repr

/-- The filter that a query asks for. Naming it twice is a fault. -/
def filterOf (query : Option String) : Except Response (Option String) :=
  match queryValues query "source" with
  | [] => .ok none
  | [label] => .ok (if isBlankText label then none else some (trimmed label))
  | _ =>
      .error (.plain 400
        "Failed to deserialize query string: duplicate field \x60source\x60")

def openStream (settings : Settings) (request : Request) : StreamAnswer :=
  match filterOf (splitAddress request.address).2 with
  | .error response => .refused response
  | .ok filter =>
      if request.method ≠ "GET" then
        .refused (.plain 405 "Request method must be \x60GET\x60")
      else if !request.upgrade then
        .refused (.plain 400 "Connection header did not include 'upgrade'")
      else
        let origin := request.origin.bind originOfHeader?
        if originAllowed settings.server.allowedOrigins origin then .opened filter
        else
          .refused (.ofFailure
            (.forbidden ("origin '" ++ origin.getD "" ++ "' is not allowed")))

def page (settings : Settings) (hub : Hub) (uptime : Nat) (request : Request) : Option Response :=
  match (splitAddress request.address).1 with
  | "/healthz" => some (.plain 200 "ok")
  | "/configz" => some (.json 200 (settingsPage settings hub uptime))
  | "/ws/chat" =>
      match openStream settings request with
      | .refused response => some response
      | .opened _ => some (.bare 101)
  | _ => none

def respond (settings : Settings) (hub : Hub) (uptime : Nat) (request : Request) : Response :=
  if request.method = "OPTIONS" then .bare 200
  else
    match page settings hub uptime request with
    | none => .bare 404
    | some response =>
        match request.method with
        | "GET" => response
        | "HEAD" => response.withoutBody
        | _ => .bare 405

end LiveChat.Serve
