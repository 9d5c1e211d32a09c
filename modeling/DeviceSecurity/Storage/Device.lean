import DeviceSecurity.Bytes
import DeviceSecurity.Error
import DeviceSecurity.Text.Basic

/-!
# Device identifiers

Storage without a secret of its own is keyed by an identifier of the device. A raw identifier is
normalized by removing blanks at its ends and then all hyphens; what is left must not be empty.
-/

namespace DeviceSecurity

/-- The raw identifier of a device, or the reason why there is none. -/
abbrev DeviceSource := Except Error String

namespace DeviceSource

/-- A raw identifier without blanks at its ends and without hyphens. -/
def normalize (raw : String) : String :=
  String.ofList ((Text.trimBy Text.isBlank raw.toList).filter (· ≠ '-'))

/-- The identifier of a device. -/
def identifier (source : DeviceSource) : Except Error String := do
  let id := normalize (← source)
  if id.isEmpty then throw (.invalidConfig "empty device identifier")
  return id

/-- An identifier that the host supplies. -/
def fixed (id : String) : DeviceSource := .ok id

/-- The first of the paths whose file can be read as text that is not blank. `read` gives the
contents of readable files. -/
def ofFiles (read : String → Option Bytes) (paths : List String) : DeviceSource :=
  match paths.findSome? fun path => do
    let text := Text.trim (← Bytes.toText? (← read path))
    if text.isEmpty then none else some text with
  | some id => .ok id
  | none => .error (.invalidConfig ("no device identifier found in " ++ Text.quoteList paths))

end DeviceSource

end DeviceSecurity
