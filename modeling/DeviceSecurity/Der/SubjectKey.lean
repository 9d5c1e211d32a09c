import DeviceSecurity.Der.Element

/-!
# Subject public keys

A `SubjectPublicKeyInfo` is a sequence of an algorithm identifier and a bit string that holds the
key. The algorithm is read but not judged.
-/

namespace DeviceSecurity.Der

/-- An algorithm identifier: the content of the object identifier and the encoded parameters. -/
structure Algorithm where
  oid : Bytes
  parameters : Option Element
deriving DecidableEq, Repr

/-- The object identifier at the start of a byte string. Its place says what it is: it must be
primitive, but its tag is not looked at. -/
def objectIdentifier? (b : Bytes) : Option (Bytes × Bytes) := do
  let (e, rest) ← Element.read? b
  if e.constructed then none else some (e.content, rest)

/-- The algorithm identifier at the start of a byte string. The parameters may be left out; what
follows them inside it is skipped. -/
def Algorithm.read? (b : Bytes) : Option (Algorithm × Bytes) := do
  let (content, rest) ← sequence? b
  let (oid, inner) ← objectIdentifier? content
  if inner.isEmpty then return (⟨oid, none⟩, rest)
  let (parameters, _) ← Element.read? inner
  return (⟨oid, some parameters⟩, rest)

/-- A subject public key: its encoding up to the end of the bit string, and the bits. -/
structure SubjectKey where
  algorithm : Algorithm
  encoded : Bytes
  key : Bytes
deriving DecidableEq, Repr

/-- The subject public key at the start of a byte string. -/
def SubjectKey.read? (b : Bytes) : Option (SubjectKey × Bytes) := do
  let (e, rest) ← Element.expect? tagSequence b
  let (algorithm, inner) ← Algorithm.read? e.content
  let (key, trailing) ← bitString? inner
  let header := b.length - rest.length - e.content.length
  let size := header + (e.content.length - trailing.length)
  return (⟨algorithm, b.take size, key⟩, rest)

end DeviceSecurity.Der
