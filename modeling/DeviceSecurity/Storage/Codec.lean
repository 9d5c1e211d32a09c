import DeviceSecurity.Cipher.Sealed
import DeviceSecurity.Storage.Device

/-!
# The storage codec

A codec seals and opens the strings of a store under one key. Storage keys are sealed
device-bound, so that equal keys have equal sealed forms; values are sealed device-bound or, in
hard mode, with a fresh nonce. The decode policy says what becomes of an entry that does not open.
-/

namespace DeviceSecurity

/-- What to do with a stored entry that does not open. -/
inductive DecodePolicy where
  /-- Report the error. -/
  | strict
  /-- Give back the stored string: it may have been written before encryption. -/
  | legacyFallback
deriving DecidableEq, Repr

namespace DecodePolicy

/-- The written name of a policy. -/
def name : DecodePolicy → String
  | strict => "strict"
  | legacyFallback => "legacy_fallback"

/-- The name of a policy in diagnostics. -/
def debug : DecodePolicy → String
  | strict => "Strict"
  | legacyFallback => "LegacyFallback"

/-- All policies, by name. -/
def byName : List (String × DecodePolicy) := [strict, legacyFallback].map fun p => (p.name, p)

end DecodePolicy

/-- A storage key and a decode policy. -/
structure StorageCodec where
  key : CipherKey
  policy : DecodePolicy := .strict
deriving DecidableEq, Repr

namespace StorageCodec

/-- The codec of a secret. -/
def ofSecret (secret : String) : Except Error StorageCodec := do
  return ⟨← CipherKey.forStorage secret, .strict⟩

/-- The codec of the caller's secret or, without one, of the device identifier. -/
def forSecret (secret : Option String) (device : DeviceSource) : Except Error StorageCodec :=
  match secret with
  | some secret => ofSecret secret
  | none => do ofSecret (← device.identifier)

/-- The codec with another policy. -/
def withPolicy (c : StorageCodec) (policy : DecodePolicy) : StorageCodec := { c with policy }

/-- The context for values. -/
def context (c : StorageCodec) (hard : Bool) : SealContext :=
  ⟨if hard then .sharedKey else .deviceBound, c.key, []⟩

/-! ## Values -/

/-- Seals a string. -/
def encryptValue (c : StorageCodec) (value : String) (hard : Bool) (e : Entropy) :
    Except Error String × Entropy :=
  (c.context hard).sealText value e

/-- Opens a string, as the policy says. -/
def decryptValue (c : StorageCodec) (stored : String) (hard : Bool) : Except Error String :=
  match (c.context hard).openText stored, c.policy with
  | .ok plain, _ => .ok plain
  | .error _, .legacyFallback => .ok stored
  | .error fault, .strict => .error fault

/-! ## Entries -/

/-- Seals a storage key. No entropy is drawn for it. -/
def encodeKey (c : StorageCodec) (key : String) : Except Error String :=
  (c.encryptValue key false []).1

/-- Opens a sealed storage key. -/
def decodeKey (c : StorageCodec) (sealedKey : String) : Except Error String :=
  c.decryptValue sealedKey false

/-- Seals a key and a value. -/
def encodeEntry (c : StorageCodec) (key value : String) (hard : Bool) (e : Entropy) :
    Except Error (String × String) × Entropy :=
  match c.encodeKey key with
  | .error fault => (.error fault, e)
  | .ok sealedKey =>
    match c.encryptValue value hard e with
    | (.ok sealedValue, rest) => (.ok (sealedKey, sealedValue), rest)
    | (.error fault, rest) => (.error fault, rest)

/-- Opens a sealed key and a sealed value. -/
def decodeEntry (c : StorageCodec) (sealedKey sealedValue : String) (hard : Bool) :
    Except Error (String × String) := do
  let key ← c.decodeKey sealedKey
  let value ← c.decryptValue sealedValue hard
  return (key, value)

/-- The diagnostic form. -/
def debug (c : StorageCodec) : String :=
  "StorageCodec \x7b key: " ++ c.key.debug ++ ", policy: " ++ c.policy.debug ++ " \x7d"

end StorageCodec

end DeviceSecurity
