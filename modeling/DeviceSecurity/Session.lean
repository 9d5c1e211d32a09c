import DeviceSecurity.Cipher.Sealed
import DeviceSecurity.Curve.KeyPair
import DeviceSecurity.Signature

/-!
# Sessions

A session holds a key pair and, once a peer's key has been combined with it, an agreed secret with
the channel key derived from it. Operations that change a session return the new state; one that
fails leaves the state as it was, which the types make plain: the new state comes with the
result, or the caller keeps the old one.
-/

namespace DeviceSecurity

/-- An agreed secret and the key of its channel. -/
structure ActiveSecret where
  secret : SharedSecret
  channelKey : CipherKey
deriving DecidableEq, Repr

/-- The state of one session. -/
structure Session where
  keyPair : Option KeyPair := none
  active : Option ActiveSecret := none
deriving DecidableEq, Repr

namespace Session

/-- A session before its first key pair. -/
def empty : Session := {}

/-! ## Agreement -/

/-- Replaces the key pair by a fresh one and forgets the secret. The result is the public key in
base64. -/
def generate (s : Session) (c : Curve) (e : Entropy) : (Except Error String × Session) × Entropy :=
  match KeyPair.generate c e with
  | (.ok pair, rest) =>
    ((.ok (Base64.encode .standard pair.publicKey.pointBytes), ⟨some pair, none⟩), rest)
  | (.error fault, rest) => ((.error fault, s), rest)

/-- The curve of the key pair. -/
def curve (s : Session) : Option Curve := s.keyPair.map (·.curve)

/-- The public key as a point in base64. -/
def publicKey (s : Session) : Except Error String :=
  match s.keyPair with
  | some pair => .ok (Base64.encode .standard pair.publicKey.pointBytes)
  | none => .error .noActiveKey

/-- The public key as a `SubjectPublicKeyInfo` in base64. -/
def publicKeyInfo (s : Session) : Except Error String :=
  match s.keyPair with
  | some pair => .ok (Base64.encode .standard pair.publicKey.spkiBytes)
  | none => .error .noActiveKey

/-- The secret and channel key that the session's pair agrees on with a peer's key in base64. -/
def activate (s : Session) (peer : String) : Except Error ActiveSecret := do
  let some pair := s.keyPair | throw .noActiveKey
  let key ← match Base64.decode .standard (Text.trim peer) with
    | .ok b => pure b
    | .error fault => throw (.invalidPeerKey ("not base64: " ++ fault.message))
  let secret ← SharedSecret.agree pair key
  let channelKey ← CipherKey.forChannel secret.bytes
  return ⟨secret, channelKey⟩

/-- Agrees with a peer and makes the secret the active one. The result is the secret in base64. -/
def derive (s : Session) (peer : String) : Except Error String × Session :=
  match s.activate peer with
  | .ok active =>
    (.ok (Base64.encode .standard active.secret.bytes), { s with active := some active })
  | .error fault => (.error fault, s)

/-- Whether a secret is active. -/
def hasSecret (s : Session) : Bool := s.active.isSome

/-- Forgets key pair and secret. -/
def clear (_ : Session) : Session := empty

/-! ## The channel -/

/-- The context of the active channel. -/
def channel (s : Session) (mode : SealMode) : Except Error SealContext :=
  match s.active with
  | some active => .ok ⟨mode, active.channelKey, []⟩
  | none => .error .noActiveKey

/-- Seals a text for the peer. -/
def encrypt (s : Session) (text : String) (mode : SealMode) (e : Entropy) :
    Except Error String × Entropy :=
  match s.channel mode with
  | .ok context => context.sealText text e
  | .error fault => (.error fault, e)

/-- Opens a text that the peer sealed. -/
def decrypt (s : Session) (sealed : String) (mode : SealMode) : Except Error String := do
  (← s.channel mode).openText sealed

/-- The signature over a request body; empty when no secret is active. -/
def signRequest (s : Session) (keyId requestId : String) (body : Bytes) : String :=
  match s.active with
  | some active =>
    match Signature.sign active.secret.bytes keyId requestId body with
    | .ok signature => signature
    | .error _ => ""
  | none => ""

/-- The diagnostic form of a session with the given identifier. -/
def debug (s : Session) (id : String) : String :=
  let curve := match s.curve with
    | some c => "Some(" ++ Text.quote c.name ++ ")"
    | none => "None"
  "Session \x7b id: " ++ Text.quote id ++ ", curve: " ++ curve ++ ", has_shared_secret: " ++
    toString s.hasSecret ++ " \x7d"

end Session

end DeviceSecurity
