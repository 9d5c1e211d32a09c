import DeviceSecurity.Bytes

/-!
# Base64

Base64 writes three bytes as four symbols. Two variants are in use: `standard` (`+`, `/`, padded
with `=`) and `urlSafe` (`-`, `_`, unpadded). `encode` writes bytes and `decode` reads a text
back. Decoding is strict: the padding must be exactly what encoding would write and the unused
bits of the last symbol must be zero, so that each byte string has one text.

A decoding fault names the byte of the text at which it is noticed.

`Variant.looseBytes?` reads more texts: padding may be left out, and the unused bits of the last
symbol do not matter.
-/

namespace DeviceSecurity.Base64

/-- A choice of the last two symbols, and whether texts are padded. -/
structure Variant where
  symbol62 : UInt8
  symbol63 : UInt8
  padded : Bool
deriving DecidableEq, Repr

/-- The variant with `+` and `/`, padded. -/
def Variant.standard : Variant := ⟨0x2b, 0x2f, true⟩

/-- The variant with `-` and `_`, unpadded. -/
def Variant.urlSafe : Variant := ⟨0x2d, 0x5f, false⟩

/-- The padding byte `=`. -/
def pad : UInt8 := 0x3d

/-- What is wrong with a text. -/
inductive Fault where
  /-- A byte outside the alphabet, or padding where none may stand. -/
  | symbol (byte : UInt8) (offset : Nat)
  /-- A single symbol is left over. -/
  | length (symbols : Nat)
  /-- Padding missing, or present in an unpadded variant. -/
  | padding
  /-- The last symbol has bits that no byte uses. -/
  | lastSymbol (byte : UInt8) (offset : Nat)
deriving DecidableEq, Repr

/-- The text of a fault. -/
def Fault.message : Fault → String
  | symbol byte offset => s!"Invalid symbol {byte.toNat}, offset {offset}."
  | length symbols => s!"Invalid input length: {symbols}"
  | padding => "Invalid padding"
  | lastSymbol byte offset => s!"Invalid last symbol {byte.toNat}, offset {offset}."

/-! ## Symbols -/

/-- The symbol for a number below 64. -/
def Variant.symbol (v : Variant) (n : Nat) : UInt8 :=
  if n < 26 then UInt8.ofNat (0x41 + n)
  else if n < 52 then UInt8.ofNat (0x61 + (n - 26))
  else if n < 62 then UInt8.ofNat (0x30 + (n - 52))
  else if n = 62 then v.symbol62
  else v.symbol63

/-- The number that a symbol stands for. -/
def Variant.value? (v : Variant) (b : UInt8) : Option Nat :=
  if b = v.symbol62 then some 62
  else if b = v.symbol63 then some 63
  else if 0x41 ≤ b ∧ b ≤ 0x5a then some (b.toNat - 0x41)
  else if 0x61 ≤ b ∧ b ≤ 0x7a then some (b.toNat - 0x61 + 26)
  else if 0x30 ≤ b ∧ b ≤ 0x39 then some (b.toNat - 0x30 + 52)
  else none

/-! ## Encoding -/

/-- Padding for the variants that have it. -/
def Variant.padding (v : Variant) (count : Nat) : Bytes :=
  if v.padded then List.replicate count pad else []

/-- The symbols of a byte string. -/
def encodeBytes (v : Variant) : Bytes → Bytes
  | [] => []
  | [a] => v.symbol (a.toNat / 4) :: v.symbol (a.toNat % 4 * 16) :: v.padding 2
  | [a, b] =>
    v.symbol (a.toNat / 4) :: v.symbol (a.toNat % 4 * 16 + b.toNat / 16) ::
      v.symbol (b.toNat % 16 * 4) :: v.padding 1
  | a :: b :: c :: rest =>
    v.symbol (a.toNat / 4) :: v.symbol (a.toNat % 4 * 16 + b.toNat / 16) ::
      v.symbol (b.toNat % 16 * 4 + c.toNat / 64) :: v.symbol (c.toNat % 64) ::
      encodeBytes v rest

/-- The text of a byte string. All of it is ASCII. -/
def encode (v : Variant) (b : Bytes) : String :=
  String.ofList ((encodeBytes v b).map fun x => Char.ofNat x.toNat)

/-! ## Decoding -/

/-- The number of the symbol `b` at `offset`, or the fault that it is none. -/
def Variant.sextet (v : Variant) (offset : Nat) (b : UInt8) : Except Fault Nat :=
  match v.value? b with
  | some n => .ok n
  | none => .error (.symbol b offset)

/-- The numbers of consecutive symbols from `offset` on. -/
def Variant.sextets (v : Variant) : (offset : Nat) → Bytes → Except Fault (List Nat)
  | _, [] => .ok []
  | offset, b :: rest => do
    let n ← v.sextet offset b
    return n :: (← v.sextets (offset + 1) rest)

/-- The bytes of the final two or three sextets of a text, and whether bits are left over. -/
def tailBytes : List Nat → Bytes × Bool
  | [w, x] => ([UInt8.ofNat (w * 4 + x / 16)], x % 16 ≠ 0)
  | [w, x, y] => ([UInt8.ofNat (w * 4 + x / 16), UInt8.ofNat (x % 16 * 16 + y / 4)], y % 4 ≠ 0)
  | [w, x, y, z] =>
    ([UInt8.ofNat (w * 4 + x / 16), UInt8.ofNat (x % 16 * 16 + y / 4),
      UInt8.ofNat (y % 4 * 64 + z)], false)
  | _ => ([], false)

/-- Decodes the last group, of at most four bytes. Padding may fill its third and fourth place. -/
def decodeLast (v : Variant) (offset : Nat) (group : Bytes) : Except Fault Bytes := do
  let symbols := group.takeWhile (· ≠ pad)
  let padding := group.dropWhile (· ≠ pad)
  let numbers ← v.sextets offset symbols
  if padding ≠ [] ∧ (symbols.length < 2 ∨ padding.any (· ≠ pad)) then
    throw (.symbol pad (offset + symbols.length))
  if group ≠ [] ∧ symbols.length < 2 then
    throw (.length (offset + symbols.length))
  if (v.padded ∧ group.length % 4 ≠ 0) ∨ (!v.padded ∧ padding ≠ []) then
    throw .padding
  let (bytes, leftover) := tailBytes numbers
  if leftover then
    throw (.lastSymbol (symbols.getLastD 0) (offset + symbols.length - 1))
  return bytes

/-- Decodes group by group; a group is the last when at most four bytes are left. -/
def decodeGroups (v : Variant) : (offset : Nat) → Bytes → Except Fault Bytes
  | offset, a :: b :: c :: d :: e :: rest => do
    let w ← v.sextet offset a
    let x ← v.sextet (offset + 1) b
    let y ← v.sextet (offset + 2) c
    let z ← v.sextet (offset + 3) d
    return UInt8.ofNat (w * 4 + x / 16) :: UInt8.ofNat (x % 16 * 16 + y / 4) ::
      UInt8.ofNat (y % 4 * 64 + z) :: (← decodeGroups v (offset + 4) (e :: rest))
  | offset, group => decodeLast v offset group

/-- The byte strings of one symbol more than full groups end with a stray byte; if that byte is
neither a symbol nor padding, it is the fault. -/
def strayByte (v : Variant) (text : Bytes) : Option Fault :=
  match text.getLast? with
  | some b =>
    if text.length % 4 = 1 ∧ b ≠ pad ∧ v.value? b = none then
      some (.symbol b (text.length - 1))
    else none
  | none => none

/-- The bytes that a string of symbols stands for. -/
def decodeBytes (v : Variant) (text : Bytes) : Except Fault Bytes :=
  match strayByte v text with
  | some fault => .error fault
  | none => decodeGroups v 0 text

/-- The bytes that a text stands for. -/
def decode (v : Variant) (text : String) : Except Fault Bytes := decodeBytes v (Bytes.ofText text)

/-! ## Loose decoding -/

/-- The bytes of a last group of at most four bytes, which may lack its padding. Padding that is
there fills the group up to four. -/
def Variant.looseLast? (v : Variant) (group : Bytes) : Option Bytes := do
  let symbols := group.takeWhile (· ≠ pad)
  let padding := group.dropWhile (· ≠ pad)
  let numbers ← symbols.mapM v.value?
  if symbols.length = 1 then none
  else if padding = [] then some (tailBytes numbers).1
  else if symbols ≠ [] ∧ padding = List.replicate (4 - symbols.length) pad then
    some (tailBytes numbers).1
  else none

/-- The bytes that a string of symbols stands for, read loosely. -/
def Variant.looseBytes? (v : Variant) : Bytes → Option Bytes
  | a :: b :: c :: d :: e :: rest => do
    let numbers ← [a, b, c, d].mapM v.value?
    return (tailBytes numbers).1 ++ (← v.looseBytes? (e :: rest))
  | group => v.looseLast? group

end DeviceSecurity.Base64
