import DeviceSecurity.Json.Reader
import DeviceSecurity.Pin.Policy

/-!
# Options of a request

What a host asks of one request besides its address: method, headers, body, time, pins and the
identifiers to sign it with. Options are read from JSON, where every field may be absent, and
checked (`validate`) before anything is sent: a method that needs a body has one, and no header
has a name or value that the protocol cannot carry.
-/

namespace DeviceSecurity

/-- The method of a request. -/
inductive RequestMethod where
  | get
  | post
  | put
  | patch
  | delete
deriving DecidableEq, Repr

namespace RequestMethod

/-- The written name of a method. -/
def name : RequestMethod → String
  | get => "GET"
  | post => "POST"
  | put => "PUT"
  | patch => "PATCH"
  | delete => "DELETE"

/-- The methods by their names. -/
def byName : List (String × RequestMethod) :=
  [get, post, put, patch, delete].map fun m => (m.name, m)

/-- Whether a request with this method must have a body. -/
def requiresBody : RequestMethod → Bool
  | post | put | patch => true
  | get | delete => false

end RequestMethod

/-- What a host asks of one request. -/
structure RequestOptions where
  method : RequestMethod := .get
  /-- The headers to send, sorted by name; the case of letters tells names apart. -/
  headers : Json.Members String := []
  /-- The body: a text is sent as it is, any other value as JSON, and null not at all. -/
  body : Option Json := none
  /-- The time in milliseconds that the request may take. -/
  timeout : Option Nat := none
  /-- The pins of intermediate certificates. -/
  certificates : List String := []
  /-- The pins of the leaf certificate. -/
  leafCertificates : List String := []
  /-- The domains that the leaf certificate may be issued for. -/
  validDomains : List String := []
  keyId : Option String := none
  requestId : Option String := none
deriving Repr

namespace RequestOptions

/-! ## Reading and writing -/

/-- Reads a body; its objects are brought into order. -/
def readBody : Json.Reader (Option Json) := Json.readOptional fun j => .ok j.canonical

/-- The fields in the order in which they are written. -/
def fields : List (Json.Field RequestOptions) := [
  ⟨"method", fun j o => return { o with method := ← Json.readVariant RequestMethod.byName j }⟩,
  ⟨"headers", fun j o => return { o with headers := ← Json.readMap Json.readString j }⟩,
  ⟨"body", fun j o => return { o with body := ← readBody j }⟩,
  ⟨"timeout", fun j o => return { o with timeout := ← Json.readOptional Json.readWord j }⟩,
  ⟨"certificates", fun j o =>
    return { o with certificates := ← Json.readList Json.readString j }⟩,
  ⟨"leafCertificates", fun j o =>
    return { o with leafCertificates := ← Json.readList Json.readString j }⟩,
  ⟨"validDomains", fun j o =>
    return { o with validDomains := ← Json.readList Json.readString j }⟩,
  ⟨"keyId", fun j o => return { o with keyId := ← Json.readOptional Json.readString j }⟩,
  ⟨"requestId", fun j o =>
    return { o with requestId := ← Json.readOptional Json.readString j }⟩]

/-- Reads options. -/
def ofText (text : String) : Except Error RequestOptions :=
  match Json.readText (Json.readRecord "FetchOptions" fields {}) (fields.map (·.name)) text with
  | .ok o => .ok o
  | .error message => .error (.serializationError message)

/-- The options as JSON. -/
def toJson (o : RequestOptions) : Json :=
  .object [("method", .string o.method.name),
    ("headers", .object (o.headers.map fun h => (h.1, .string h.2))),
    ("body", o.body.getD .null),
    ("timeout", (o.timeout.map fun t => .number (.whole t)).getD .null),
    ("certificates", texts o.certificates), ("leafCertificates", texts o.leafCertificates),
    ("validDomains", texts o.validDomains), ("keyId", (o.keyId.map Json.string).getD .null),
    ("requestId", (o.requestId.map Json.string).getD .null)]
where
  texts (l : List String) : Json := .array (l.map .string)

/-- The text of options. -/
def text (o : RequestOptions) : String := o.toJson.text

/-! ## What is sent -/

/-- The bytes of the body. -/
def bodyBytes (o : RequestOptions) : Option Bytes :=
  match o.body with
  | none | some .null => none
  | some (.string s) => some (Bytes.ofText s)
  | some j => some (Bytes.ofText j.text)

/-- Whether the body is sent as JSON. -/
def hasJsonBody (o : RequestOptions) : Bool :=
  match o.body with
  | none | some .null | some (.string _) => false
  | some _ => true

/-- The time that the request may take, in milliseconds. -/
def timeoutOr (o : RequestOptions) (default : Nat) : Nat := o.timeout.getD default

/-- The identifiers of key and request, when the request is to be signed. -/
def signingIds (o : RequestOptions) : Option (String × String) :=
  match o.keyId, o.requestId with
  | some key, some request => some (key, request)
  | _, _ => none

/-- The pinning policy of the request. -/
def pinPolicy (o : RequestOptions) : Except Error PinPolicy := do
  (← PinPolicy.ofTexts o.certificates o.validDomains).withLeafPins o.leafCertificates

/-- Whether some header has a name, letter case aside. -/
def hasHeader (o : RequestOptions) (name : String) : Bool :=
  o.headers.any fun h => Text.sameLower h.1 name

/-! ## Checks -/

/-- A character of a header's name. -/
def isTokenChar (c : Char) : Bool :=
  c.isAlphanum || "!#$%&'*+-.^_\x60|~".toList.contains c

/-- Whether a text can name a header. -/
def isHeaderName (name : String) : Bool :=
  name ≠ "" && name.length ≤ 65535 && name.toList.all isTokenChar

/-- Whether a text can be the value of a header: it holds no controls but the tab. -/
def isHeaderValue (value : String) : Bool :=
  value.toList.all fun c => c == '\t' || (' ' ≤ c && c != '\x7f')

/-- Checks one header. -/
def validateHeader (name value : String) : Except Error Unit := do
  unless isHeaderName name do
    throw (.invalidConfig ("invalid header name " ++ Text.quote name))
  unless isHeaderValue value do
    throw (.invalidConfig ("invalid value for header " ++ name))

/-- Checks that the options describe a request that can be sent. -/
def validate (o : RequestOptions) : Except Error Unit := do
  if o.method.requiresBody && o.bodyBytes.isNone then
    throw (.invalidConfig (o.method.name ++ " requires a body"))
  o.headers.forM fun h => validateHeader h.1 h.2

end RequestOptions

end DeviceSecurity
