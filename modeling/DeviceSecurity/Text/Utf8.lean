import DeviceSecurity.Bytes

/-!
# Text from doubtful bytes

`decode` reads bytes as UTF-8 and puts U+FFFD for what is malformed, once for each longest start
of a well-formed sequence and once for every other byte that fits nowhere. `decodeWith` puts another
character there.
-/

namespace DeviceSecurity.Text.Utf8

/-- What stands for malformed bytes. -/
def replacement : Char := '\ufffd'

/-- Whether a byte may continue a sequence. -/
def continues (b : UInt8) : Bool := 0x80 ≤ b && b ≤ 0xbf

/-- The bytes that may come second after a lead byte, and how many follow in all. -/
def second? (lead : UInt8) : Option (UInt8 × UInt8 × Nat) :=
  if 0xc2 ≤ lead && lead ≤ 0xdf then some (0x80, 0xbf, 1)
  else if lead == 0xe0 then some (0xa0, 0xbf, 2)
  else if lead == 0xed then some (0x80, 0x9f, 2)
  else if 0xe1 ≤ lead && lead ≤ 0xef then some (0x80, 0xbf, 2)
  else if lead == 0xf0 then some (0x90, 0xbf, 3)
  else if 0xf1 ≤ lead && lead ≤ 0xf3 then some (0x80, 0xbf, 3)
  else if lead == 0xf4 then some (0x80, 0x8f, 3)
  else none

/-- How many bytes at the start belong together, and the character that they are if they are
well formed. -/
def unit (b : Bytes) : Nat × Option Char :=
  let bits (x : UInt8) := x.toNat % 64
  match b with
  | [] => (0, none)
  | lead :: rest =>
    if lead < 0x80 then (1, some (Char.ofNat lead.toNat))
    else
      match second? lead, rest with
      | some (low, high, following), x :: rest =>
        if x < low || high < x then (1, none)
        else
          match following, rest with
          | 1, _ => (2, some (Char.ofNat (lead.toNat % 32 * 64 + bits x)))
          | 2, y :: _ =>
            if continues y then
              (3, some (Char.ofNat ((lead.toNat % 16 * 64 + bits x) * 64 + bits y)))
            else (2, none)
          | _, y :: z :: _ =>
            if !continues y then (2, none)
            else if !continues z then (3, none)
            else
              (4, some (Char.ofNat (((lead.toNat % 8 * 64 + bits x) * 64 + bits y) * 64 + bits z)))
          | 3, [y] => if continues y then (3, none) else (2, none)
          | _, _ => (2, none)
      | _, _ => (1, none)

/-- The characters of bytes of which the first `skip` have been read already, with `standIn` for
what is malformed. -/
def decodeChars (standIn : Char) : (skip : Nat) → Bytes → List Char
  | _, [] => []
  | skip + 1, _ :: rest => decodeChars standIn skip rest
  | 0, b :: rest =>
    let (length, c) := unit (b :: rest)
    c.getD standIn :: decodeChars standIn (length - 1) rest

/-- The text of bytes, whatever they are, with `standIn` for what is malformed. -/
def decodeWith (standIn : Char) (b : Bytes) : String := String.ofList (decodeChars standIn 0 b)

/-- The text of bytes, whatever they are. -/
def decode (b : Bytes) : String := decodeWith replacement b

end DeviceSecurity.Text.Utf8
