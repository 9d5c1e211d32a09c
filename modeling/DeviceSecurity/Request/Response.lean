import DeviceSecurity.Error
import DeviceSecurity.Json.Parser
import DeviceSecurity.Json.Printer
import DeviceSecurity.Json.Reader

/-!
# Responses

What a successful request gives back to the host.
-/

namespace DeviceSecurity

/-- The answer of a server to a request, with a status below 400. -/
structure Response where
  status : Nat
  /-- The address that answered. -/
  url : String
  /-- The body, read as text whatever it is. -/
  body : String
  /-- The time from sending to the end of the body. -/
  duration : String
deriving DecidableEq, Repr

namespace Response

/-- How a time in milliseconds is written. -/
def durationText (milliseconds : Nat) : String := toString milliseconds ++ "ms"

/-- The body read as JSON. -/
def json (r : Response) : Except Error Json :=
  match Json.parse? r.body with
  | some j => .ok j.canonical
  | none => .error (.serializationError Json.notJson)

/-- The response as JSON, as it crosses to the host. -/
def toJson (r : Response) : Json :=
  .object [("status", .number (.whole r.status)), ("url", .string r.url),
    ("response", .string r.body), ("duration", .string r.duration)]

/-- The text of a response. -/
def text (r : Response) : String := r.toJson.text

end Response

end DeviceSecurity
