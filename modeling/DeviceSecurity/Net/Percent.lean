import DeviceSecurity.Bytes

/-!
# Percent encoding

A byte that may not stand for itself in an address is written as a percent sign and two
hexadecimal digits. `encode` writes a text so, and `decode` takes every such triple back to its
byte and leaves all else alone.
-/

namespace DeviceSecurity.Percent

/-- A character that every part of an address encodes: a control or one outside ASCII. -/
def isControl (c : Char) : Bool := c < ' ' || '~' < c

/-- The triple of a byte. -/
def triple (b : UInt8) : List Char :=
  ['%', (Bytes.hexDigit (b.toNat / 16)).toUpper, (Bytes.hexDigit (b.toNat % 16)).toUpper]

/-- The characters of a text, each that is chosen, a control or outside ASCII as the triples of its
bytes. -/
def encode (chosen : Char → Bool) (s : List Char) : List Char :=
  s.flatMap fun c =>
    if isControl c || chosen c then (Bytes.ofText c.toString).flatMap triple else [c]

/-- The bytes of a text, the triples as the bytes that they stand for. -/
def decode : List Char → Bytes
  | '%' :: hi :: lo :: rest =>
    match Bytes.hexValue? hi, Bytes.hexValue? lo with
    | some h, some l => UInt8.ofNat (h * 16 + l) :: decode rest
    | _, _ => 0x25 :: decode (hi :: lo :: rest)
  | c :: rest => Bytes.ofText c.toString ++ decode rest
  | [] => []

end DeviceSecurity.Percent
