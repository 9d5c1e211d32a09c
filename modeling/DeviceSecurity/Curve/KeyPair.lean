import DeviceSecurity.Curve.PeerKey
import DeviceSecurity.Entropy

/-!
# Key pairs

A key pair is a secret scalar and its multiple of the generator. `generate` draws a probe and then
candidates for the scalar; `exchange` multiplies a peer's point by the scalar.
-/

namespace DeviceSecurity

/-- A secret scalar on a curve. -/
structure KeyPair where
  curve : Curve
  secret : Nat
deriving DecidableEq, Repr

namespace KeyPair

/-- The public half. -/
def publicKey (k : KeyPair) : PeerKey := ⟨k.curve, k.curve.mul k.secret k.curve.generator⟩

/-- The first candidate in the range of scalars, and the entropy behind it. A candidate is as many
bytes as a coordinate; at most `tries` are drawn. -/
def drawScalar (c : Curve) : (tries : Nat) → Entropy → Except Error Nat × Entropy
  | 0, e => (.error .rngFailed, e)
  | tries + 1, e =>
    match e.draw c.fieldSize with
    | none => (.error .rngFailed, e)
    | some (candidate, rest) =>
      let n := Bytes.toNat candidate
      if n = 0 ∨ c.order ≤ n then drawScalar c tries rest else (.ok n, rest)

/-- The bytes drawn to see if there is any entropy. -/
def probeSize : Nat := 16

/-- A fresh key pair. -/
def generate (c : Curve) (e : Entropy) : Except Error KeyPair × Entropy :=
  match e.draw probeSize with
  | none => (.error .rngFailed, e)
  | some (_, rest) =>
    match drawScalar c rest.length rest with
    | (.ok secret, rest) => (.ok ⟨c, secret⟩, rest)
    | (.error fault, rest) => (.error fault, rest)

/-- The first coordinate of the peer's point times the scalar. -/
def exchange (k : KeyPair) (peer : PeerKey) : Except Error Bytes :=
  if k.curve = peer.curve then .ok (k.curve.firstCoordinate (k.curve.mul k.secret peer.point))
  else .error (.agreementFailure
    ("curve mismatch: local " ++ k.curve.name ++ " vs peer " ++ peer.curve.name))

/-- The diagnostic form, which leaves the scalar out. -/
def debug (k : KeyPair) : String :=
  "KeyPair \x7b curve: " ++ Text.quote k.curve.name ++ ", public: " ++
    Text.quote k.publicKey.pointBytes.toHex ++ ", .. \x7d"

end KeyPair

/-- An agreed secret and the curve it was agreed on. -/
structure SharedSecret where
  curve : Curve
  bytes : Bytes
deriving DecidableEq, Repr

namespace SharedSecret

/-- The secret that a key pair and the encoded key of a peer agree on. It is as long as a
coordinate and not all zeros. -/
def agree (k : KeyPair) (peer : Bytes) : Except Error SharedSecret := do
  let key ← PeerKey.ofBytes k.curve peer
  let secret ← k.exchange key
  if secret.length ≠ k.curve.fieldSize ∨ secret.all (· == 0) then
    throw (.agreementFailure ("unexpected " ++ k.curve.name ++ " output"))
  return ⟨k.curve, secret⟩

/-- The diagnostic form, which leaves the secret out. -/
def debug (s : SharedSecret) : String := "SharedSecret(" ++ s.curve.name ++ ", <redacted>)"

end SharedSecret

end DeviceSecurity
