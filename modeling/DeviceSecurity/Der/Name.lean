import DeviceSecurity.Bytes
import DeviceSecurity.Der.SubjectKey

/-!
# Distinguished names

A name is a sequence of sets of attributes, each a type and a value. Names are compared by their
encoding, which ends with the last attribute set that can be read.
-/

namespace DeviceSecurity.Der

/-- An attribute of a name: the content of its type and its value. -/
structure NameAttribute where
  oid : Bytes
  value : Element
deriving DecidableEq, Repr

/-- The attributes of a name in order, and its encoding. -/
structure DistinguishedName where
  attributes : List NameAttribute
  encoded : Bytes
deriving DecidableEq, Repr

/-- Reads items as long as one can be read; at most `fuel`. The last result is what could not be
read. -/
def readWhile {α : Type} (item? : Bytes → Option (α × Bytes)) :
    (fuel : Nat) → Bytes → List α × Bytes
  | 0, b => ([], b)
  | fuel + 1, b =>
    match item? b with
    | none => ([], b)
    | some (a, rest) =>
      let (more, rest) := readWhile item? fuel rest
      (a :: more, rest)

/-- Reads items as long as one can be read. Every item takes up at least one byte. -/
def readMany {α : Type} (item? : Bytes → Option (α × Bytes)) (b : Bytes) : List α × Bytes :=
  readWhile item? b.length b

/-- The attribute at the start of a byte string. -/
def NameAttribute.read? (b : Bytes) : Option (NameAttribute × Bytes) := do
  let (content, rest) ← sequence? b
  let (oid, inner) ← objectIdentifier? content
  let (value, _) ← Element.read? inner
  return (⟨oid, value⟩, rest)

/-- The set of attributes at the start of a byte string; there must be at least one. -/
def attributeSet? (b : Bytes) : Option (List NameAttribute × Bytes) := do
  let (e, rest) ← Element.expect? tagSet b
  match readMany NameAttribute.read? e.content with
  | ([], _) => none
  | (attributes, _) => return (attributes, rest)

namespace DistinguishedName

/-- The name at the start of a byte string. -/
def read? (b : Bytes) : Option (DistinguishedName × Bytes) := do
  let (content, rest) ← sequence? b
  let (sets, trailing) := readMany attributeSet? content
  return (⟨sets.flatten, b.take (b.length - rest.length - trailing.length)⟩, rest)

/-- The type of common names, 2.5.4.3. -/
def commonNameOid : Bytes := [0x55, 0x04, 0x03]

/-- The text of an attribute value of one of the types whose bytes are text. -/
def valueText? (e : Element) : Option String :=
  if [tagUtf8String, tagNumericString, tagPrintableString, tagIa5String].any e.hasTag then
    Bytes.toText? e.content
  else none

/-- The text of the first common name. Later ones do not stand in for it. -/
def commonName? (n : DistinguishedName) : Option String := do
  valueText? (← n.attributes.find? (·.oid == commonNameOid)).value

end DistinguishedName

end DeviceSecurity.Der
