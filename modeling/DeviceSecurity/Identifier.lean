import DeviceSecurity.Bytes

/-!
# Random identifiers

A random identifier is sixteen random bytes of which six bits say so: the version, four, in the
upper half of the seventh byte, and the variant in the two upper bits of the ninth. It is
written as 32 hexadecimal digits, with or without hyphens behind the 8th, 12th, 16th and 20th.
-/

namespace DeviceSecurity

/-- The sixteen bytes of a random identifier. -/
structure Identifier where
  bytes : Bytes
deriving DecidableEq, Repr

namespace Identifier

/-- The identifier made of sixteen random bytes. -/
def ofRandom (random : Bytes) : Identifier where
  bytes := (Bytes.ofNat 16 (Bytes.toNat random)).mapIdx fun i b =>
    if i = 6 then b &&& 0x0f ||| 0x40 else if i = 8 then b &&& 0x3f ||| 0x80 else b

/-- The digits without hyphens. -/
def simple (i : Identifier) : String := i.bytes.toHex

/-- The digits in five groups. -/
def hyphenated (i : Identifier) : String :=
  let part (start length : Nat) := Bytes.toHex ((i.bytes.drop start).take length)
  String.intercalate "-" [part 0 4, part 4 2, part 6 2, part 8 2, part 10 6]

end Identifier

end DeviceSecurity
