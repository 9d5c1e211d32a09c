import DeviceSecurity.Cipher.Aes

/-!
# Galois counter mode

Authenticated encryption from a block cipher (NIST SP 800-38D), with nonces of twelve bytes and
tags of sixteen. The cipher is an argument: a function on blocks. The text is added to a keystream
(`keystream`, `counterMode`); the tag is a polynomial of the authenticated blocks, evaluated at
the encrypted zero block (`hash`), plus the first keystream block.
-/

namespace DeviceSecurity.Gcm

/-! ## The field of 2^128 elements -/

/-- The polynomial `x^128 + x^7 + x^2 + x + 1` without its leading term, lowest power first. -/
def reduction : Block := 0xe1000000000000000000000000000000#128

/-- The product with `x`. -/
def timesX (v : Block) : Block :=
  if v.getLsbD 0 then v >>> 1 ^^^ reduction else v >>> 1

/-- Adds to `z` the product of `v` with the `n` lowest bits of `x`, highest bit first. -/
def mulBits (x : Block) : (n : Nat) → (v z : Block) → Block
  | 0, _, z => z
  | n + 1, v, z => mulBits x n (timesX v) (if x.getLsbD n then z ^^^ v else z)

/-- The product of two blocks as polynomials, lowest power first, modulo the reduction. -/
def mul (x y : Block) : Block := mulBits x 128 y 0

/-- The polynomial with the given coefficients, the first one of the highest power, at `h`. -/
def hash (h : Block) (blocks : List Block) : Block :=
  blocks.foldl (fun y x => mul (y ^^^ x) h) 0

/-! ## The keystream -/

/-- The next counter block: the low 32 bits count, and wrap. -/
def increment (counter : Block) : Block :=
  counter.extractLsb' 32 96 ++ (counter.extractLsb' 0 32 + 1)

/-- `count` blocks of keystream from the block after `counter`. -/
def keystream (cipher : Block → Block) : (counter : Block) → (count : Nat) → Bytes
  | _, 0 => []
  | counter, count + 1 =>
    (cipher (increment counter)).bytes ++ keystream cipher (increment counter) count

@[simp] theorem length_keystream (cipher : Block → Block) (counter : Block) (count : Nat) :
    (keystream cipher counter count).length = 16 * count := by
  induction count generalizing counter with
  | zero => rfl
  | succ n ih => simp [keystream, ih]; omega

/-- The text added to the keystream. -/
def counterMode (cipher : Block → Block) (counter : Block) (text : Bytes) : Bytes :=
  Bytes.xor text (keystream cipher counter ((text.length + 15) / 16))

@[simp] theorem length_counterMode (cipher : Block → Block) (counter : Block) (text : Bytes) :
    (counterMode cipher counter text).length = text.length := by
  simp [counterMode]
  omega

/-- Counter mode undoes itself. -/
theorem counterMode_counterMode (cipher : Block → Block) (counter : Block) (text : Bytes) :
    counterMode cipher counter (counterMode cipher counter text) = text := by
  rw [counterMode, length_counterMode, counterMode]
  apply Bytes.xor_xor
  simp
  omega

/-! ## Encryption and decryption -/

/-- The bytes in a nonce. -/
def nonceSize : Nat := 12

/-- The bytes in a tag. -/
def tagSize : Nat := 16

/-- The counter block of a nonce. -/
def startCounter (nonce : Bytes) : Block := Block.ofBytes (nonce ++ [0, 0, 0, 1])

/-- The blocks that a tag authenticates: the associated data, the ciphertext, and the lengths of
both in bits. -/
def authenticated (aad ciphertext : Bytes) : List Block :=
  Block.split aad ++ Block.split ciphertext ++
    [Block.ofBytes (Bytes.ofNat 8 (8 * aad.length) ++ Bytes.ofNat 8 (8 * ciphertext.length))]

/-- The tag of a ciphertext. -/
def tag (cipher : Block → Block) (nonce aad ciphertext : Bytes) : Bytes :=
  (hash (cipher 0) (authenticated aad ciphertext) ^^^ cipher (startCounter nonce)).bytes

@[simp] theorem length_tag (cipher : Block → Block) (nonce aad ciphertext : Bytes) :
    (tag cipher nonce aad ciphertext).length = tagSize := by
  simp [tag, tagSize]

/-- The most bytes of text or associated data that one nonce may cover, `2^36`. -/
def maxLength : Nat := 0x1000000000

/-- The ciphertext of a text with its tag behind it; `none` if text or data are too long. -/
def encrypt (cipher : Block → Block) (nonce aad text : Bytes) : Option Bytes :=
  if maxLength < text.length ∨ maxLength < aad.length then none
  else
    let ciphertext := counterMode cipher (startCounter nonce) text
    some (ciphertext ++ tag cipher nonce aad ciphertext)

/-- The text of a ciphertext with its tag behind it; `none` if the tag does not verify. -/
def decrypt (cipher : Block → Block) (nonce aad sealed : Bytes) : Option Bytes :=
  let ciphertext := sealed.take (sealed.length - tagSize)
  if sealed.length < tagSize ∨ maxLength + tagSize < ciphertext.length ∨
      maxLength < aad.length then none
  else if sealed.drop (sealed.length - tagSize) = tag cipher nonce aad ciphertext then
    some (counterMode cipher (startCounter nonce) ciphertext)
  else none

end DeviceSecurity.Gcm
