import DeviceSecurity.Bytes

/-!
# Tagged elements

The building block of DER is an element: an identifier (class, form and tag number), a length and
that many bytes of content. `Element.read?` takes the first element off a byte string. It accepts
a length written with more bytes than it needs, but no indefinite one. `skipLoose?` passes over an
element whose length may be indefinite, so that an end marker closes it.
-/

namespace DeviceSecurity.Der

/-- The class of a tag. -/
inductive TagClass where
  | universal
  | application
  | contextSpecific
  | «private»
deriving DecidableEq, Repr

/-- The class that the two highest bits of an identifier name. -/
def TagClass.ofBits (n : Nat) : TagClass :=
  match n with
  | 0 => .universal
  | 1 => .application
  | 2 => .contextSpecific
  | _ => .private

/-- An element: its identifier and its content. -/
structure Element where
  tagClass : TagClass
  constructed : Bool
  tag : Nat
  content : Bytes
deriving DecidableEq, Repr

/-- Whether an element has this universal tag number. Its class and form are not looked at. -/
def Element.hasTag (e : Element) (tag : Nat) : Bool := e.tag == tag

/-! ## Tag numbers -/

def tagBoolean : Nat := 1
def tagInteger : Nat := 2
def tagBitString : Nat := 3
def tagOctetString : Nat := 4
def tagUtf8String : Nat := 12
def tagSequence : Nat := 16
def tagSet : Nat := 17
def tagNumericString : Nat := 18
def tagPrintableString : Nat := 19
def tagIa5String : Nat := 22
def tagUtcTime : Nat := 23
def tagGeneralizedTime : Nat := 24

/-! ## Reading -/

/-- The tag number in base-128 digits, of which the last has a clear high bit; at most `digits`
of them, and only the low 32 bits count. -/
def longTag? : (digits : Nat) → (acc : Nat) → Bytes → Option (Nat × Bytes)
  | 0, _, _ => none
  | _ + 1, _, [] => none
  | digits + 1, acc, b :: rest =>
    let acc := (acc * 128 + b.toNat % 128) % 0x100000000
    if b < 0x80 then some (acc, rest) else longTag? digits acc rest

/-- The identifier at the start of a byte string. -/
def identifier? : Bytes → Option ((TagClass × Bool × Nat) × Bytes)
  | [] => none
  | b :: rest =>
    let tagClass := TagClass.ofBits (b.toNat / 64)
    let constructed := b.toNat / 32 % 2 == 1
    if b.toNat % 32 = 31 then
      (longTag? 5 0 rest).map fun (tag, rest) => ((tagClass, constructed, tag), rest)
    else some ((tagClass, constructed, b.toNat % 32), rest)

/-- The length at the start of a byte string, in short form or in long form of fewer than 127
bytes; it must be below `2^64`. -/
def length? : Bytes → Option (Nat × Bytes)
  | [] => none
  | b :: rest =>
    if b < 0x80 then some (b.toNat, rest)
    else
      let size := b.toNat - 128
      let n := Bytes.toNat (rest.take size)
      if size = 0 ∨ size = 127 ∨ rest.length < size ∨ 0x10000000000000000 ≤ n then none
      else some (n, rest.drop size)

/-- The first element of a byte string, and the rest. -/
def Element.read? (b : Bytes) : Option (Element × Bytes) := do
  let ((tagClass, constructed, tag), b) ← identifier? b
  let (length, b) ← length? b
  if length ≤ b.length then
    some (⟨tagClass, constructed, tag, b.take length⟩, b.drop length)
  else none

/-- The first element, which must have the given tag number. -/
def Element.expect? (tag : Nat) (b : Bytes) : Option (Element × Bytes) := do
  let (e, rest) ← Element.read? b
  if e.hasTag tag then some (e, rest) else none

/-! ## Indefinite lengths -/

/-- The length at the start of a byte string, or nothing if it is indefinite, as only that of a
constructed element may be. -/
def looseLength? (constructed : Bool) (b : Bytes) : Option (Option Nat × Bytes) :=
  match b with
  | 0x80 :: rest => if constructed then some (none, rest) else none
  | _ => (length? b).map fun (length, rest) => (some length, rest)

/-- Passes over elements up to and including an end marker, at most `fuel` of them. An element is
passed by `skip?`, which tells whether it was an end marker. -/
def skipToEnd? (skip? : Bytes → Option (Bool × Bytes)) : (fuel : Nat) → Bytes → Option Bytes
  | 0, _ => none
  | fuel + 1, b => do
    let (isEnd, rest) ← skip? b
    if isEnd then some rest else skipToEnd? skip? fuel rest

/-- Passes over the element at the start of a byte string, with indefinite lengths nested less than
`depth` deep, and tells whether it is an end marker: an empty element with tag 0. -/
def skipLooseUpTo? : (depth : Nat) → Bytes → Option (Bool × Bytes)
  | 0, _ => none
  | depth + 1, b => do
    let ((_, constructed, tag), b) ← identifier? b
    match ← looseLength? constructed b with
    | (some length, b) =>
      if b.length < length then none else some (length == 0 && tag == 0, b.drop length)
    | (none, b) => (skipToEnd? (skipLooseUpTo? depth) b.length b).map (false, ·)

/-- The rest behind the element with a tag at the start of a byte string, whose length may be
indefinite. -/
def skipLoose? (tag : Nat) (b : Bytes) : Option Bytes := do
  let ((_, _, actual), _) ← identifier? b
  if actual ≠ tag then none else (skipLooseUpTo? 50 b).map (·.2)

/-! ## Bit strings and sequences -/

/-- The bits of a bit string's content, whose first byte counts the unused ones at the end; these
must be zero. -/
def bits? : Bytes → Option Bytes
  | [] => none
  | unused :: bits =>
    match bits.getLast? with
    | none => if unused = 0 then some [] else none
    | some last =>
      -- more than eight unused bits are only possible when the last byte is zero
      if last ≠ 0 ∧ last.toNat % Nat.pow 2 unused.toNat ≠ 0 then none
      else if last = 0 ∧ 8 < unused.toNat then none
      else some bits

/-- The bits of the bit string at the start of a byte string. -/
def bitString? (b : Bytes) : Option (Bytes × Bytes) := do
  let (e, rest) ← Element.expect? tagBitString b
  if e.constructed then none
  return (← bits? e.content, rest)

/-- The content of a sequence at the start of a byte string. -/
def sequence? (b : Bytes) : Option (Bytes × Bytes) :=
  (Element.expect? tagSequence b).map fun (e, rest) => (e.content, rest)

end DeviceSecurity.Der
