import LiveChat.Error
import LiveChat.Json.Printer

/-!
# Answers to requests

An answer has a status, perhaps a kind of content, and a body. A failure is answered with a status
by its cause and a body that names both.
-/

namespace LiveChat.Serve

structure Response where
  status : Nat
  contentType : Option String
  body : String
deriving DecidableEq, Repr

namespace Response

def bare (status : Nat) : Response := ⟨status, none, ""⟩

def plain (status : Nat) (body : String) : Response :=
  ⟨status, some "text/plain; charset=utf-8", body⟩

def json (status : Nat) (body : Json) : Response := ⟨status, some "application/json", body.text⟩

def withoutBody (response : Response) : Response := { response with body := "" }

end Response

/-- The status of a failure, and the code by which the body calls it. -/
def statusOf : ServeFailure → Nat × String
  | .forbidden _ => (403, "FORBIDDEN")
  | .failure (.invalidInput _) => (400, "BAD_REQUEST")
  | .failure (.notFound _) => (404, "NOT_FOUND")
  | _ => (500, "INTERNAL_ERROR")

def Response.ofFailure (failure : ServeFailure) : Response :=
  let (status, code) := statusOf failure
  .json status
    (.object [("error", .object [("code", .string code), ("message", .string failure.message)])])

end LiveChat.Serve
