import DeviceSecurity.Bytes
import DeviceSecurity.Der.Time
import DeviceSecurity.Trust.Fault

/-!
# The strict encoding

Certificates that trust is built on are read by the letter of DER: a tag is one byte, a length has
its shortest form and stays below 65535, and nothing may be left over where a value ends. A reader
takes a value off a byte string and gives back the rest.
-/

namespace DeviceSecurity.Trust.Encoding

/-! ## Tags -/

def boolean : UInt8 := 0x01
def integer : UInt8 := 0x02
def bitString : UInt8 := 0x03
def octetString : UInt8 := 0x04
def objectIdentifier : UInt8 := 0x06
def utcTime : UInt8 := 0x17
def generalizedTime : UInt8 := 0x18
def sequence : UInt8 := 0x30

/-- The tag of a constructed value whose meaning depends on its place. -/
def constructedAt (place : UInt8) : UInt8 := 0xa0 ||| place

/-- The limit that every length stays below. -/
def lengthLimit : Nat := 0xffff

/-! ## Values -/

/-- The length at the start of a byte string, in its shortest form. -/
def length? : Bytes → Option (Nat × Bytes)
  | 0x81 :: a :: rest => if 0x80 ≤ a then some (a.toNat, rest) else none
  | 0x82 :: a :: b :: rest =>
    if a ≠ 0 then some (Bytes.toNat [a, b], rest) else none
  | a :: rest => if a < 0x80 then some (a.toNat, rest) else none
  | [] => none

/-- A value of any tag: the tag, the content and the rest. -/
def anyValue (b : Bytes) : Trusting (UInt8 × Bytes × Bytes) :=
  match b with
  | [] => .error .badEncoding
  | tag :: b =>
    if tag &&& 0x1f = 0x1f then .error .badEncoding
    else
      match length? b with
      | some (length, b) =>
        if length < lengthLimit ∧ length ≤ b.length then
          .ok (tag, b.take length, b.drop length)
        else .error .badEncoding
      | none => .error .badEncoding

/-- The content of a value with a tag, and the rest. -/
def value (tag : UInt8) (b : Bytes) : Trusting (Bytes × Bytes) := do
  let (actual, content, rest) ← anyValue b
  if actual = tag then return (content, rest) else throw .badEncoding

/-- Whether a byte string starts with a tag. -/
def startsWith (tag : UInt8) (b : Bytes) : Bool := b.head? == some tag

/-- Nothing may be left over, on pain of a fault. -/
def atEndOr (fault : TrustFault) (b : Bytes) : Trusting Unit :=
  if b.isEmpty then .ok () else .error fault

/-- Nothing may be left over. -/
def atEnd (b : Bytes) : Trusting Unit := atEndOr .trailingData b

/-- The values of a list; at most `fuel` of them. -/
def valuesUpTo (tag : UInt8) : (fuel : Nat) → Bytes → Trusting (List Bytes)
  | 0, _ => .ok []
  | fuel + 1, b =>
    if b.isEmpty then .ok []
    else do
      let (content, rest) ← value tag b
      return content :: (← valuesUpTo tag fuel rest)

/-- The contents of all the values, with one tag, that a byte string consists of. -/
def values (tag : UInt8) (b : Bytes) : Trusting (List Bytes) := valuesUpTo tag b.length b

/-! ## Simple types -/

/-- A truth value that is false when it is left out. -/
def flag (b : Bytes) : Trusting (Bool × Bytes) := do
  if !startsWith boolean b then return (false, b)
  let (content, rest) ← value boolean b
  match content with
  | [0xff] => return (true, rest)
  | [0x00] => return (false, rest)
  | _ :: _ :: _ => throw .trailingData
  | _ => throw .badEncoding

/-- A natural number of one byte. -/
def smallNumber (b : Bytes) : Trusting (Nat × Bytes) := do
  let (content, rest) ← value integer b
  match content with
  | [x] => if x < 0x80 then return (x.toNat, rest) else throw .badEncoding
  | [0, x] => if 0x80 ≤ x then return (x.toNat, rest) else throw .badEncoding
  | _ => throw .badEncoding

/-- A bit string without unused bits. -/
def wholeBits (b : Bytes) : Trusting (Bytes × Bytes) := do
  let (content, rest) ← value bitString b
  match content with
  | 0 :: bits => return (bits, rest)
  | _ => throw .badEncoding

/-- A time with seconds, not before 1970, as seconds from then. -/
def time (b : Bytes) : Trusting (Int × Bytes) := do
  let short := startsWith utcTime b
  let (content, rest) ← value (if short then utcTime else generalizedTime) b
  let t? := if short then Der.Time.ofUtc? content else Der.Time.ofGeneralized? content
  match t? with
  | some t =>
    if content.length = (if short then 13 else 15) ∧ 1970 ≤ t.year then return (t.seconds, rest)
    else throw .badTime
  | none => throw .badTime

end DeviceSecurity.Trust.Encoding
