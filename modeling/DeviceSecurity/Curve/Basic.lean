import DeviceSecurity.Bytes
import DeviceSecurity.Error
import DeviceSecurity.Text.Basic

/-!
# Curves

The three NIST curves on which keys are agreed, their names, the sizes of their encodings and the
header that precedes a point in a `SubjectPublicKeyInfo`.
-/

namespace DeviceSecurity

/-- A named curve for key agreement. -/
inductive Curve where
  | p256
  | p384
  | p521
deriving DecidableEq, Repr

namespace Curve

/-- The canonical name. -/
def name : Curve → String
  | p256 => "P-256"
  | p384 => "P-384"
  | p521 => "P-521"

/-- The bytes in a coordinate, which is also the size of an agreed secret. -/
def fieldSize : Curve → Nat
  | p256 => 32
  | p384 => 48
  | p521 => 66

/-- The bytes in an uncompressed point: a tag and two coordinates. -/
def pointSize (c : Curve) : Nat := 1 + 2 * c.fieldSize

/-- The DER header of a `SubjectPublicKeyInfo`, up to the bytes of the point. -/
def spkiPrefix : Curve → Bytes
  | p256 =>
    [0x30, 0x59, 0x30, 0x13, 0x06, 0x07, 0x2a, 0x86, 0x48, 0xce, 0x3d, 0x02, 0x01, 0x06, 0x08,
      0x2a, 0x86, 0x48, 0xce, 0x3d, 0x03, 0x01, 0x07, 0x03, 0x42, 0x00]
  | p384 =>
    [0x30, 0x76, 0x30, 0x10, 0x06, 0x07, 0x2a, 0x86, 0x48, 0xce, 0x3d, 0x02, 0x01, 0x06, 0x05,
      0x2b, 0x81, 0x04, 0x00, 0x22, 0x03, 0x62, 0x00]
  | p521 =>
    [0x30, 0x81, 0x9b, 0x30, 0x10, 0x06, 0x07, 0x2a, 0x86, 0x48, 0xce, 0x3d, 0x02, 0x01, 0x06,
      0x05, 0x2b, 0x81, 0x04, 0x00, 0x23, 0x03, 0x81, 0x86, 0x00]

/-- The names of each curve, in small letters. -/
def aliases : Curve → List String
  | p256 => ["p256", "p-256", "secp256r1", "prime256v1"]
  | p384 => ["p384", "p-384", "secp384r1"]
  | p521 => ["p521", "p-521", "secp521r1", "p512"]

/-- All curves. -/
def all : List Curve := [p256, p384, p521]

/-- The curve that a text names, without regard to case and surrounding blanks. -/
def ofName (text : String) : Except Error Curve :=
  match all.find? fun c => c.aliases.contains (Text.lower (Text.trim text)) with
  | some c => .ok c
  | none => .error (.invalidCurve text)

/-- The canonical name of a curve names it. -/
theorem ofName_name (c : Curve) : ofName c.name = .ok c := by
  cases c <;> rfl

end Curve

end DeviceSecurity
