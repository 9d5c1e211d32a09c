import DeviceSecurity.Net.Url.Parser
import DeviceSecurity.Pin.Verifier
import DeviceSecurity.Request.Options
import DeviceSecurity.Request.Response
import DeviceSecurity.Session

/-!
# Sending requests

A client sends requests under their pins against one trust store. Everything that can be refused
without a connection is refused first and in a fixed order (`preflight`); only then is the request
put together (`assemble`) and handed to the network. The network is a function: it tells which
certificate chains a server presented and what came back, and the client decides on both
(`receive`).
-/

namespace DeviceSecurity

/-! ## Requests and what comes of them -/

/-- A request as the network gets it. -/
structure Request where
  method : RequestMethod
  url : Url
  /-- The headers in the order in which they were added; none replaces another. -/
  headers : List (String × String)
  body : Option Bytes
  /-- The time in milliseconds that it may take. -/
  timeout : Nat
deriving DecidableEq, Repr

/-- Why the network has no answer, with its report. -/
inductive NetworkFault where
  | timedOut (report : String)
  | failed (report : String)
deriving DecidableEq, Repr

/-- The error that a fault of the network is. -/
def NetworkFault.error : NetworkFault → Error
  | timedOut report => .timeout report
  | failed report => .connectionFailed report

/-- What came back over a connection. -/
inductive Delivery where
  /-- A status, then the body or what broke it off, after a time in milliseconds. -/
  | answered (status : Nat) (body : Except NetworkFault Bytes) (milliseconds : Nat)
  | unanswered (fault : NetworkFault)

/-- What the network does with a request: the handshakes of its connections, and what came back if
all of them were accepted. -/
structure Exchange where
  handshakes : List Handshake
  delivery : Delivery

/-- The network, as far as a client sees it. -/
abbrev Network := Request → Exchange

/-! ## Clients -/

/-- A client with its trust store. -/
structure PinnedClient where
  store : TrustStore
  /-- The time at which certificates must be valid. -/
  now : Int
  /-- The time in milliseconds for requests that name none. -/
  defaultTimeout : Nat := 60000

namespace PinnedClient

/-- Reads the address of a request and checks the options. The result is the address with the
pinning policy. Pins of intermediate certificates need an address with TLS. -/
def preflight (url : String) (o : RequestOptions) : Except Error (Url × PinPolicy) := do
  let target ← match Url.ofText url with
    | .ok target => pure target
    | .error fault => throw (.invalidUrl (url ++ ": " ++ fault.message))
  if target.host.isNone then throw (.invalidUrl (url ++ ": no host"))
  let policy ← o.pinPolicy
  if !policy.pins.isEmpty && target.scheme ≠ "https" then throw (.insecureScheme url)
  o.validate
  return (target, policy)

/-- Whether a request line can carry an address: only with these schemes, and with a host without
quotation marks and braces. -/
def isSendable (u : Url) : Bool :=
  (u.scheme = "http" || u.scheme = "https") &&
    match u.host with
    | some (.domain name) => !name.toList.any fun c => "\"\x60\x7b\x7d".toList.contains c
    | _ => true

/-- The header for user and password of an address. -/
def authorization (u : Url) : List (String × String) :=
  let decoded (s : String) := Percent.decode s.toList
  if u.hasCredentials then
    [("Authorization", "Basic " ++ Base64.encode .standard
      (decoded u.username ++ Bytes.ofText ":" ++ decoded (u.password.getD "")))]
  else []

/-- The header that says that the body is JSON, unless the options name a type. -/
def contentType (o : RequestOptions) : List (String × String) :=
  if o.hasJsonBody && !o.hasHeader "Content-Type" then [("Content-Type", "application/json")]
  else []

/-- The header with the signature over the body; without a session it is empty. -/
def signature (o : RequestOptions) (session : Option Session) : List (String × String) :=
  match o.signingIds with
  | some (keyId, requestId) =>
    let body := o.bodyBytes.getD []
    [(Signature.headerName, (session.map (·.signRequest keyId requestId body)).getD "")]
  | none => []

/-- Puts a request together. -/
def assemble (c : PinnedClient) (target : Url) (o : RequestOptions) (session : Option Session) :
    Request where
  method := o.method
  url := target.withoutCredentials
  headers := authorization target ++ o.headers ++ contentType o ++ signature o session
  body := o.bodyBytes
  timeout := o.timeoutOr c.defaultTimeout

/-- The verifier of the handshakes with a target. -/
def verifier (c : PinnedClient) (target : Url) (policy : PinPolicy) : PinVerifier :=
  ⟨c.store, policy, target.portOrDefault.getD PinValidation.httpsPort, c.now⟩

/-- What comes of an exchange. A rejected handshake ends the connection, and its rejection is
reported in place of what the network says. -/
def receive (v : PinVerifier) (target : Url) (x : Exchange) : Except Error Response :=
  let (accepted, slot) := v.verifyAll x.handshakes none
  let delivery :=
    if accepted then x.delivery else .unanswered (.failed PinVerifier.rejectionText)
  match delivery with
  | .unanswered fault => .error (slot.rejection.getD fault.error)
  | .answered status body milliseconds => do
    let body ← match body with
      | .ok b => pure (Text.Utf8.decode b)
      | .error fault => throw fault.error
    if 400 ≤ status then throw (.httpStatus status target.text body)
    return ⟨status, target.text, body, Response.durationText milliseconds⟩

/-- Sends one request. -/
def send (c : PinnedClient) (network : Network) (url : String) (o : RequestOptions)
    (session : Option Session) : Except Error Response := do
  let (target, policy) ← preflight url o
  let request := c.assemble target o session
  unless isSendable request.url do throw (.invalidUrl "builder error")
  receive (c.verifier target policy) request.url (network request)

end PinnedClient

end DeviceSecurity
