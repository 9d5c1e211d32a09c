import DeviceSecurity.Bytes

/-!
# The AES block cipher

The cipher of FIPS 197 for keys of 16, 24 and 32 bytes. A block is a string of 128 bits, of which
the first byte holds the most significant ones. A state is sixteen bytes, column after
column. `roundKeys` extends a key and `encrypt` applies the rounds; only encryption is needed,
because counter mode uses the cipher in one direction.
-/

namespace DeviceSecurity

/-- A string of 128 bits. -/
abbrev Block := BitVec 128

namespace Block

/-- The block of at most sixteen bytes, filled with zeros at the end. -/
def ofBytes (b : Bytes) : Block :=
  BitVec.ofNat 128 (Bytes.toNat (b ++ List.replicate (16 - b.length) 0))

/-- The sixteen bytes of a block. -/
def bytes (x : Block) : Bytes := Bytes.ofNat 16 x.toNat

@[simp] theorem length_bytes (x : Block) : x.bytes.length = 16 := by simp [bytes]

/-- A byte string cut into blocks, the last filled with zeros. -/
def split (b : Bytes) : List Block := (b.blocks 16).map ofBytes

end Block

end DeviceSecurity

namespace DeviceSecurity.Aes

/-- Sixteen bytes, column by column. -/
abbrev State := Vector UInt8 16

/-- Inversion in the field of 256 elements followed by an affine map, as a table. -/
def substitutions : Array UInt8 := #[
  0x63, 0x7c, 0x77, 0x7b, 0xf2, 0x6b, 0x6f, 0xc5, 0x30, 0x01, 0x67, 0x2b, 0xfe, 0xd7, 0xab, 0x76,
  0xca, 0x82, 0xc9, 0x7d, 0xfa, 0x59, 0x47, 0xf0, 0xad, 0xd4, 0xa2, 0xaf, 0x9c, 0xa4, 0x72, 0xc0,
  0xb7, 0xfd, 0x93, 0x26, 0x36, 0x3f, 0xf7, 0xcc, 0x34, 0xa5, 0xe5, 0xf1, 0x71, 0xd8, 0x31, 0x15,
  0x04, 0xc7, 0x23, 0xc3, 0x18, 0x96, 0x05, 0x9a, 0x07, 0x12, 0x80, 0xe2, 0xeb, 0x27, 0xb2, 0x75,
  0x09, 0x83, 0x2c, 0x1a, 0x1b, 0x6e, 0x5a, 0xa0, 0x52, 0x3b, 0xd6, 0xb3, 0x29, 0xe3, 0x2f, 0x84,
  0x53, 0xd1, 0x00, 0xed, 0x20, 0xfc, 0xb1, 0x5b, 0x6a, 0xcb, 0xbe, 0x39, 0x4a, 0x4c, 0x58, 0xcf,
  0xd0, 0xef, 0xaa, 0xfb, 0x43, 0x4d, 0x33, 0x85, 0x45, 0xf9, 0x02, 0x7f, 0x50, 0x3c, 0x9f, 0xa8,
  0x51, 0xa3, 0x40, 0x8f, 0x92, 0x9d, 0x38, 0xf5, 0xbc, 0xb6, 0xda, 0x21, 0x10, 0xff, 0xf3, 0xd2,
  0xcd, 0x0c, 0x13, 0xec, 0x5f, 0x97, 0x44, 0x17, 0xc4, 0xa7, 0x7e, 0x3d, 0x64, 0x5d, 0x19, 0x73,
  0x60, 0x81, 0x4f, 0xdc, 0x22, 0x2a, 0x90, 0x88, 0x46, 0xee, 0xb8, 0x14, 0xde, 0x5e, 0x0b, 0xdb,
  0xe0, 0x32, 0x3a, 0x0a, 0x49, 0x06, 0x24, 0x5c, 0xc2, 0xd3, 0xac, 0x62, 0x91, 0x95, 0xe4, 0x79,
  0xe7, 0xc8, 0x37, 0x6d, 0x8d, 0xd5, 0x4e, 0xa9, 0x6c, 0x56, 0xf4, 0xea, 0x65, 0x7a, 0xae, 0x08,
  0xba, 0x78, 0x25, 0x2e, 0x1c, 0xa6, 0xb4, 0xc6, 0xe8, 0xdd, 0x74, 0x1f, 0x4b, 0xbd, 0x8b, 0x8a,
  0x70, 0x3e, 0xb5, 0x66, 0x48, 0x03, 0xf6, 0x0e, 0x61, 0x35, 0x57, 0xb9, 0x86, 0xc1, 0x1d, 0x9e,
  0xe1, 0xf8, 0x98, 0x11, 0x69, 0xd9, 0x8e, 0x94, 0x9b, 0x1e, 0x87, 0xe9, 0xce, 0x55, 0x28, 0xdf,
  0x8c, 0xa1, 0x89, 0x0d, 0xbf, 0xe6, 0x42, 0x68, 0x41, 0x99, 0x2d, 0x0f, 0xb0, 0x54, 0xbb, 0x16]

/-- The substitution of one byte. -/
def substitute (x : UInt8) : UInt8 := substitutions.getD x.toNat 0

/-- Twice an element of the field of 256 elements. -/
def double (x : UInt8) : UInt8 := if x &&& 0x80 = 0 then x <<< 1 else x <<< 1 ^^^ 0x1b

/-! ## Round keys -/

/-- The constant of the `n`th use of the key schedule's core, counted from one. -/
def roundConstant (n : Nat) : UInt8 := (List.range (n - 1)).foldl (fun x _ => double x) 1

/-- Word `i` of the schedule of a key of `nk` words, from the words before it, newest first. -/
def nextWord (nk i : Nat) (newestFirst : List Bytes) : Bytes :=
  let previous := newestFirst.headD []
  let mixed :=
    if i % nk = 0 then
      Bytes.xor ((previous.drop 1 ++ previous.take 1).map substitute)
        [roundConstant (i / nk), 0, 0, 0]
    else if 6 < nk ∧ i % nk = 4 then previous.map substitute
    else previous
  Bytes.xor (newestFirst.getD (nk - 1) []) mixed

/-- The number of rounds for a key of `nk` words. -/
def rounds (nk : Nat) : Nat := nk + 6

/-- The words of the extended key: four for each round and four more. -/
def keyWords (key : Bytes) : List Bytes :=
  let nk := key.length / 4
  let more := 4 * (rounds nk + 1) - nk
  ((List.range more).foldl (fun words i => nextWord nk (nk + i) words :: words)
    (key.blocks 4).reverse).reverse

/-- A state from the first sixteen bytes of a string. -/
def State.ofBytes (b : Bytes) : State :=
  let a := b.toArray
  Vector.ofFn fun i => a.getD i.val 0

/-- The key of each round. -/
def roundKeys (key : Bytes) : List State :=
  (Bytes.blocks 16 (keyWords key).flatten).map State.ofBytes

/-! ## Rounds -/

/-- Adds a round key. -/
def addKey (s k : State) : State := s.zipWith (· ^^^ ·) k

/-- Substitutes every byte and rotates row `r` by `r` columns. -/
def substituteAndShift (s : State) : State :=
  Vector.ofFn fun i => substitute (s[(5 * i.val) % 16])

/-- Multiplies every column by the fixed matrix. -/
def mixColumns (s : State) : State :=
  Vector.ofFn fun i =>
    let column := i.val / 4 * 4
    let row := i.val % 4
    have : column + 3 < 16 := by omega
    have (k : Nat) : column + k % 4 < 16 := by omega
    let a := s[column + row]
    let b := s[column + (row + 1) % 4]
    let c := s[column + (row + 2) % 4]
    let d := s[column + (row + 3) % 4]
    double a ^^^ (double b ^^^ b) ^^^ c ^^^ d

/-- The rounds after the first key; the last one does not mix columns. -/
def applyRounds : State → List State → State
  | s, [] => s
  | s, [k] => addKey (substituteAndShift s) k
  | s, k :: rest => applyRounds (addKey (mixColumns (substituteAndShift s)) k) rest

/-- The encryption of one block under extended keys. -/
def encryptWith (keys : List State) (x : Block) : Block :=
  let s := State.ofBytes x.bytes
  let t := match keys with
    | [] => s
    | k :: rest => applyRounds (addKey s k) rest
  Block.ofBytes t.toList

/-- The encryption of one block under a key of 16, 24 or 32 bytes. -/
def encrypt (key : Bytes) : Block → Block :=
  let keys := roundKeys key
  encryptWith keys

end DeviceSecurity.Aes
