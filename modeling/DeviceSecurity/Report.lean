import DeviceSecurity.Error
import DeviceSecurity.Json.Printer

/-!
# Reports

An error crosses to the host as JSON: alone as an `ErrorReport`, or as the outcome of a request as
a `RequestFailure`, where an error status of the server carries its own address and body.
-/

namespace DeviceSecurity

/-- An error as the host sees it. -/
structure ErrorReport where
  code : Nat
  kind : ErrorKind
  message : String
  recoverable : Bool
deriving DecidableEq, Repr

namespace ErrorReport

/-- The report of an error. -/
def ofError (e : Error) : ErrorReport := ⟨e.code, e.kind, e.message, e.isRecoverable⟩

/-- The report as JSON. -/
def toJson (r : ErrorReport) : Json :=
  .object [("code", .number (.whole r.code)), ("kind", .string r.kind.name),
    ("message", .string r.message), ("recoverable", .bool r.recoverable)]

/-- The text of a report. -/
def text (r : ErrorReport) : String := r.toJson.text

end ErrorReport

/-- A failed request as the host sees it. -/
structure RequestFailure where
  /-- The status, when the server answered. -/
  status : Option Nat
  url : String
  /-- The body of the server's answer or the message of the error. -/
  error : String
  code : Nat
deriving DecidableEq, Repr

namespace RequestFailure

/-- The failure of a request to an address. -/
def ofError (url : String) (e : Error) : RequestFailure :=
  match e with
  | .httpStatus status url body => ⟨some status, url, body, e.code⟩
  | _ => ⟨none, url, e.message, e.code⟩

/-- The failure as JSON; a status that is not there is left out. -/
def toJson (f : RequestFailure) : Json :=
  .object ((f.status.map fun n => ("status", Json.number (.whole n))).toList ++
    [("url", .string f.url), ("error", .string f.error), ("code", .number (.whole f.code))])

/-- The text of a failure. -/
def text (f : RequestFailure) : String := f.toJson.text

end RequestFailure

end DeviceSecurity
