import DeviceSecurity.Base64
import DeviceSecurity.Hash.Hmac
import DeviceSecurity.Json.Reader
import DeviceSecurity.Text.Utf8

/-!
# Detached signatures

A request is signed with a JSON web signature whose payload stays outside of it: the protected
header in base64, two dots, and the HMAC-SHA256 code of header, dot and body in base64. `sign`
writes such a text and `verify` checks one and gives back its header.
-/

namespace DeviceSecurity

/-- The protected header of a signature. -/
structure SignatureHeader where
  algorithm : String
  keyId : String
  /-- Whether the payload is encoded. -/
  encoded : Bool
  /-- The extensions that a verifier must know. -/
  critical : List String
  requestId : String
deriving DecidableEq, Repr

namespace SignatureHeader

/-- The only algorithm that is written or accepted. -/
def algorithmName : String := "HS256"

/-- The header that a signature over these identifiers carries. -/
def forRequest (keyId requestId : String) : SignatureHeader :=
  ⟨algorithmName, keyId, false, ["b64"], requestId⟩

/-- The header as JSON; the order of the members is part of what is signed. -/
def toJson (h : SignatureHeader) : Json :=
  .object [("alg", .string h.algorithm), ("kid", .string h.keyId), ("b64", .bool h.encoded),
    ("crit", .array (h.critical.map .string)), ("requestId", .string h.requestId)]

/-- The text of the header. -/
def text (h : SignatureHeader) : String := h.toJson.text

/-- The fields of the header in the order of the text. -/
def fields : List (Json.Field SignatureHeader) := [
  ⟨"alg", fun j h => return { h with algorithm := ← Json.readString j }⟩,
  ⟨"kid", fun j h => return { h with keyId := ← Json.readString j }⟩,
  ⟨"b64", fun j h => return { h with encoded := ← Json.readBool j }⟩,
  ⟨"crit", fun j h => return { h with critical := ← Json.readList Json.readString j }⟩,
  ⟨"requestId", fun j h => return { h with requestId := ← Json.readString j }⟩]

/-- The names of the fields. -/
def fieldNames : List String := fields.map (·.name)

/-- Reads a header from JSON. -/
def read : Json.Reader SignatureHeader :=
  Json.readFullRecord "JwsHeader" fields ⟨"", "", false, [], ""⟩

/-- Reads a header from a text, or gives the message of the first fault. -/
def ofText (text : String) : Except String SignatureHeader := Json.readText read fieldNames text

/-- The names of all members and the header in bytes, with `standIn` for those that are no text. -/
def ofMalformed? (standIn : Char) (b : Bytes) : Option (List String × SignatureHeader) := do
  let j ← Json.recordOfText? fieldNames (Text.Utf8.decodeWith standIn b)
  return (j.memberNames, ← (read j).toOption)

/-- Reads a header from its bytes, or gives the message of the first fault. Bytes that are no text
may stand in the values that are skipped, that is, where it does not matter what stands for
them. -/
def ofBytes (b : Bytes) : Except String SignatureHeader :=
  match Bytes.toText? b with
  | some text => ofText text
  | none =>
    match ofMalformed? Text.Utf8.replacement b, ofMalformed? 'x' b with
    | some x, some y => if x = y then .ok x.2 else .error Json.notJson
    | _, _ => .error Json.notJson

end SignatureHeader

namespace Signature

/-- The name of the request header that carries a signature. -/
def headerName : String := "X-JWS-Signature"

/-- What is signed: the encoded header, a dot and the body. -/
def signingInput (encodedHeader : String) (body : Bytes) : Bytes :=
  Bytes.ofText encodedHeader ++ 0x2e :: body

/-- The code of a header and a body. There is none without a secret. -/
def code (secret : Bytes) (encodedHeader : String) (body : Bytes) : Except Error Bytes :=
  if secret.isEmpty then .error .noActiveKey
  else .ok (Hmac.hmac secret (signingInput encodedHeader body))

/-- The signature over a body for these identifiers. -/
def sign (secret : Bytes) (keyId requestId : String) (body : Bytes) : Except Error String := do
  let header := Base64.encode .urlSafe
    (Bytes.ofText (SignatureHeader.forRequest keyId requestId).text)
  let code ← code secret header body
  return header ++ ".." ++ Base64.encode .urlSafe code

/-- The parts before and behind the first two adjacent dots. -/
def splitDots : List Char → Option (List Char × List Char)
  | '.' :: '.' :: rest => some ([], rest)
  | c :: rest => (splitDots rest).map fun (before, behind) => (c :: before, behind)
  | [] => none

/-- The bytes of one part of a signature. -/
def decodePart (text : String) : Except Error Bytes :=
  match Base64.decode .urlSafe text with
  | .ok b => .ok b
  | .error fault => .error (.malformedInput ("invalid base64: " ++ fault.message))

/-- The header of a signature over a body, if the signature is well formed and its code is that of
the secret. -/
def verify (secret body : Bytes) (signature : String) : Except Error SignatureHeader := do
  let (before, behind) ← match splitDots signature.toList with
    | some parts => pure parts
    | none => throw (.malformedInput "signature is not a detached JWS")
  let encodedHeader := String.ofList before
  let headerBytes ← decodePart encodedHeader
  let header ← match SignatureHeader.ofBytes headerBytes with
    | .ok header => pure header
    | .error message => throw (.malformedInput ("bad JWS header: " ++ message))
  if header.algorithm ≠ SignatureHeader.algorithmName ∨ header.encoded then
    throw (.malformedInput
      s!"unsupported JWS header: alg={header.algorithm} b64={header.encoded}")
  let given ← decodePart (String.ofList behind)
  let expected ← code secret encodedHeader body
  if given = expected then return header else throw .authenticationFailure

end Signature

end DeviceSecurity
