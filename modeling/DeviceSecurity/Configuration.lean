import DeviceSecurity.Curve.Basic
import DeviceSecurity.Json.Reader
import DeviceSecurity.Storage.Codec

/-!
# Configuration

The settings of a host, read from JSON. Absent fields keep their defaults, and settings that no
part of the program can use are refused.
-/

namespace DeviceSecurity

/-- The settings of a host. -/
structure Configuration where
  /-- The curve of new key pairs. -/
  defaultCurve : Curve := .p256
  /-- The time in milliseconds that a request may take when it names none. -/
  fetchTimeout : Nat := 60000
  decodePolicy : DecodePolicy := .strict
  verboseLogging : Bool := false
  /-- The secret of the storage; without one the device identifier keys it. -/
  deviceSecret : Option String := none
deriving DecidableEq, Repr

namespace Configuration

/-- Reads the name of a curve. -/
def readCurve : Json.Reader Curve := fun j => do
  match Curve.ofName (← Json.readString j) with
  | .ok curve => return curve
  | .error fault => throw (.refused fault.message)

/-- The fields in the order in which they are written. -/
def fields : List (Json.Field Configuration) := [
  ⟨"default_curve", fun j c => return { c with defaultCurve := ← readCurve j }⟩,
  ⟨"fetch_timeout_ms", fun j c => return { c with fetchTimeout := ← Json.readWord j }⟩,
  ⟨"decode_policy", fun j c =>
    return { c with decodePolicy := ← Json.readVariant DecodePolicy.byName j }⟩,
  ⟨"verbose_logging", fun j c => return { c with verboseLogging := ← Json.readBool j }⟩,
  ⟨"device_secret", fun j c =>
    return { c with deviceSecret := ← Json.readOptional Json.readString j }⟩]

/-- Refuses settings that no part of the program can use. -/
def validate (c : Configuration) : Except Error Unit := do
  if c.fetchTimeout = 0 then throw (.invalidConfig "fetch_timeout_ms must be positive")
  if c.deviceSecret = some "" then throw (.invalidConfig "device_secret must not be empty")

/-- Reads a configuration. -/
def ofText (text : String) : Except Error Configuration := do
  match Json.readText (Json.readRecord "CoreConfig" fields {}) (fields.map (·.name)) text with
  | .ok c => do
    c.validate
    return c
  | .error message => throw (.invalidConfig message)

/-- The configuration as JSON. -/
def toJson (c : Configuration) : Json :=
  .object [("default_curve", .string c.defaultCurve.name),
    ("fetch_timeout_ms", .number (.whole c.fetchTimeout)),
    ("decode_policy", .string c.decodePolicy.name), ("verbose_logging", .bool c.verboseLogging),
    ("device_secret", (c.deviceSecret.map Json.string).getD .null)]

/-- The text of a configuration. -/
def text (c : Configuration) : String := c.toJson.text

/-- The codec of the storage: that of the configured secret or of the device. -/
def storageCodec (c : Configuration) (device : DeviceSource) : Except Error StorageCodec := do
  return (← StorageCodec.forSecret c.deviceSecret device).withPolicy c.decodePolicy

/-- The log directives that the configuration asks for. -/
def logFilter (c : Configuration) : String :=
  if c.verboseLogging then "info,warden_core=debug" else "info"

end Configuration

end DeviceSecurity
