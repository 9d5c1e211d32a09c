import DeviceSecurity.Text.Quoted

/-!
# Errors

Every operation that can fail fails with an `Error`. An error has a message for people, a number
for the host (`code`), a category that the number decides (`kind`) and a flag that tells if trying
again may help (`isRecoverable`).
-/

namespace DeviceSecurity

/-- The categories of errors. -/
inductive ErrorKind where
  /-- Curve selection, peer keys and agreement. -/
  | keyAgreement
  /-- Sealing, opening and key handling. -/
  | encryption
  /-- Certificate pinning and trust. -/
  | validation
  /-- The connection below a request. -/
  | transport
  /-- Serialization, configuration and the rest. -/
  | internal
deriving DecidableEq, Repr

/-- The written name of a category. -/
def ErrorKind.name : ErrorKind → String
  | keyAgreement => "key_agreement"
  | encryption => "encryption"
  | validation => "validation"
  | transport => "transport"
  | internal => "internal"

/-- What went wrong. The text of a constructor is the part of the message that varies. -/
inductive Error where
  /-- No curve has this name. -/
  | invalidCurve (name : String)
  /-- A peer key does not decode to a point of the curve. -/
  | invalidPeerKey (reason : String)
  /-- Key agreement gave no usable secret. -/
  | agreementFailure (reason : String)
  /-- The randomness source is exhausted. -/
  | rngFailed
  /-- No shared secret is active. -/
  | noActiveKey
  /-- Key material of an unusable length or encoding. -/
  | invalidKey (reason : String)
  /-- An input that cannot be taken apart. -/
  | malformedInput (reason : String)
  /-- An authentication tag did not verify. -/
  | authenticationFailure
  /-- The cipher refused to seal. -/
  | encryptionFailed (reason : String)
  /-- Port or chain length outside the pinning policy. -/
  | chainRejected (reason : String)
  /-- The leaf's common name is in no configured domain. -/
  | domainMismatch (reason : String)
  /-- A certificate's key is not pinned. -/
  | pinMismatch (reason : String)
  /-- The host does not match the leaf's common name. -/
  | hostMismatch (reason : String)
  /-- The chain is not trusted. -/
  | trustEvaluationFailed (reason : String)
  /-- A configured pin is no digest. -/
  | invalidPin (reason : String)
  /-- Pins were configured for an address without TLS. -/
  | insecureScheme (url : String)
  /-- A certificate that cannot be read. -/
  | invalidCertificate (reason : String)
  /-- An address that cannot be read. -/
  | invalidUrl (reason : String)
  /-- The answer did not come in time. -/
  | timeout (reason : String)
  /-- The connection failed below the request. -/
  | connectionFailed (reason : String)
  /-- The server answered with an error status. -/
  | httpStatus (status : Nat) (url : String) (body : String)
  /-- A state that should not occur. -/
  | internal (reason : String)
  /-- A value could not be read from or written as JSON. -/
  | serializationError (reason : String)
  /-- A configuration that cannot be used. -/
  | invalidConfig (reason : String)
deriving DecidableEq, Repr

namespace Error

/-- The message shown to people. -/
def message : Error → String
  | invalidCurve name => "Unsupported curve: " ++ name
  | invalidPeerKey reason => "Invalid peer public key: " ++ reason
  | agreementFailure reason => "Key agreement failed: " ++ reason
  | rngFailed => "Random number generation failed"
  | noActiveKey => "No active key. Complete key agreement first."
  | invalidKey reason => "Invalid key: " ++ reason
  | malformedInput reason => "Malformed input: " ++ reason
  | authenticationFailure =>
    "Authentication failed: ciphertext was modified or the key is wrong"
  | encryptionFailed reason => "Encryption failed: " ++ reason
  | chainRejected reason => "Certificate chain rejected: " ++ reason
  | domainMismatch reason => "Domain mismatch: " ++ reason
  | pinMismatch reason => "Pin mismatch: " ++ reason
  | hostMismatch reason => "Host mismatch: " ++ reason
  | trustEvaluationFailed reason => "Trust evaluation failed: " ++ reason
  | invalidPin reason => "Invalid pin: " ++ reason
  | insecureScheme url => "Pinned requests require https: " ++ url
  | invalidCertificate reason => "Invalid certificate: " ++ reason
  | invalidUrl reason => "Invalid URL: " ++ reason
  | timeout reason => "Request timed out: " ++ reason
  | connectionFailed reason => "Connection failed: " ++ reason
  | httpStatus status url _ => s!"HTTP {status} from {url}"
  | internal reason => "Internal error: " ++ reason
  | serializationError reason => "Serialization error: " ++ reason
  | invalidConfig reason => "Invalid configuration: " ++ reason

/-- The number reported to the host; the hundreds give the category. -/
def code : Error → Nat
  | invalidCurve _ => 300
  | invalidPeerKey _ => 301
  | agreementFailure _ => 302
  | rngFailed => 303
  | noActiveKey => 400
  | invalidKey _ => 401
  | malformedInput _ => 402
  | authenticationFailure => 403
  | encryptionFailed _ => 404
  | chainRejected _ => 500
  | domainMismatch _ => 501
  | pinMismatch _ => 502
  | hostMismatch _ => 503
  | trustEvaluationFailed _ => 504
  | invalidPin _ => 505
  | insecureScheme _ => 506
  | invalidCertificate _ => 507
  | invalidUrl _ => 600
  | timeout _ => 601
  | connectionFailed _ => 602
  | httpStatus .. => 603
  | internal _ => 900
  | serializationError _ => 901
  | invalidConfig _ => 902

/-- The category that a code belongs to. -/
def kindOfCode (code : Nat) : ErrorKind :=
  match code / 100 with
  | 3 => .keyAgreement
  | 4 => .encryption
  | 5 => .validation
  | 6 => .transport
  | _ => .internal

/-- The category of an error. -/
def kind (e : Error) : ErrorKind := kindOfCode e.code

/-- Only a transport failure may pass when tried again; a rejection is final. -/
def isRecoverable : Error → Bool
  | timeout _ | connectionFailed _ => true
  | _ => false

/-- The name of the sort of error. -/
def name : Error → String
  | invalidCurve _ => "InvalidCurve"
  | invalidPeerKey _ => "InvalidPeerKey"
  | agreementFailure _ => "AgreementFailure"
  | rngFailed => "RngFailed"
  | noActiveKey => "NoActiveKey"
  | invalidKey _ => "InvalidKey"
  | malformedInput _ => "MalformedInput"
  | authenticationFailure => "AuthenticationFailure"
  | encryptionFailed _ => "EncryptionFailed"
  | chainRejected _ => "ChainRejected"
  | domainMismatch _ => "DomainMismatch"
  | pinMismatch _ => "PinMismatch"
  | hostMismatch _ => "HostMismatch"
  | trustEvaluationFailed _ => "TrustEvaluationFailed"
  | invalidPin _ => "InvalidPin"
  | insecureScheme _ => "InsecureScheme"
  | invalidCertificate _ => "InvalidCertificate"
  | invalidUrl _ => "InvalidUrl"
  | timeout _ => "Timeout"
  | connectionFailed _ => "ConnectionFailed"
  | httpStatus .. => "HttpStatus"
  | internal _ => "Internal"
  | serializationError _ => "SerializationError"
  | invalidConfig _ => "InvalidConfig"

/-- The varying text of an error that has one. -/
def detail? : Error → Option String
  | invalidCurve s | invalidPeerKey s | agreementFailure s | invalidKey s | malformedInput s
  | encryptionFailed s | chainRejected s | domainMismatch s | pinMismatch s | hostMismatch s
  | trustEvaluationFailed s | invalidPin s | insecureScheme s | invalidCertificate s
  | invalidUrl s | timeout s | connectionFailed s | internal s | serializationError s
  | invalidConfig s => some s
  | rngFailed | noActiveKey | authenticationFailure | httpStatus .. => none

/-- The diagnostic form: the sort of error with its contents quoted. -/
def debug (e : Error) : String :=
  match e with
  | httpStatus status url body =>
    "HttpStatus \x7b status: " ++ toString status ++ ", url: " ++ Text.quote url ++
      ", body: " ++ Text.quote body ++ " \x7d"
  | _ =>
    match e.detail? with
    | some text => e.name ++ "(" ++ Text.quote text ++ ")"
    | none => e.name

end Error

end DeviceSecurity
