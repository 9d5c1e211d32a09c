/-!
# Punycode

A label of any characters is written in ASCII as its ASCII characters, a hyphen if there are any,
and digits that say for each other character, in ascending order, how far to go to its place:
through the positions of the label and, from the end over to the start, to the next code point.
The distances are numbers of base 36 in which a digit below a threshold is the last; the thresholds
adapt to the distances seen.
-/

namespace DeviceSecurity.Punycode

/-! ## Digits and thresholds -/

/-- The character of a digit. -/
def digitChar (d : Nat) : Char :=
  Char.ofNat (if d < 26 then 'a'.toNat + d else '0'.toNat + (d - 26))

/-- The digit of a character of either case. -/
def digitValue? (c : Char) : Option Nat :=
  if c.isLower then some (c.toNat - 'a'.toNat)
  else if c.isUpper then some (c.toNat - 'A'.toNat)
  else if c.isDigit then some (c.toNat - '0'.toNat + 26)
  else none

/-- The threshold of the digit at a position, which counts by the base from the base on. -/
def threshold (bias position : Nat) : Nat := min 26 (max 1 (position - bias))

/-- A damped distance brought below 456 by division, with the base for every step. -/
def reduce (distance : Nat) : Nat × Nat :=
  if 455 < distance then
    let (rest, steps) := reduce (distance / 35)
    (rest, steps + 36)
  else (distance, 0)
termination_by distance

/-- The bias after a distance, where `count` characters are placed in all. -/
def adapt (distance count : Nat) (first : Bool) : Nat :=
  let damped := if first then distance / 700 else distance / 2
  let (rest, steps) := reduce (damped + damped / count)
  steps + 36 * rest / (rest + 38)

/-! ## Writing -/

/-- The digits of a distance. -/
def distanceDigits (bias position distance : Nat) : List Char :=
  let t := threshold bias position
  if distance < t then [digitChar distance]
  else
    digitChar (t + (distance - t) % (36 - t)) ::
      distanceDigits bias (position + 36) ((distance - t) / (36 - t))
termination_by distance
decreasing_by
  have : 1 ≤ threshold bias position := by unfold threshold; omega
  exact Nat.lt_of_le_of_lt (Nat.div_le_self _ _) (by omega)

/-- What is known on the way through a label: the distance since the last character placed, the
bias, how many characters are placed, and the digits so far. -/
structure Progress where
  distance : Nat
  bias : Nat
  placed : Nat
  digits : List Char

/-- Passes a character of the label on the round of a code point, and places it if it is that
one. -/
def Progress.pass (basic codePoint : Nat) (p : Progress) (c : Char) : Progress :=
  if c.toNat < codePoint then { p with distance := p.distance + 1 }
  else if c.toNat = codePoint then
    ⟨0, adapt p.distance (p.placed + 1) (p.placed == basic), p.placed + 1,
      p.digits ++ distanceDigits p.bias 36 p.distance⟩
  else p

/-- The digits for the code points above `previous - 1`, given in ascending order. -/
def roundDigits (label : List Char) (basic : Nat) :
    (codePoints : List Nat) → (previous : Nat) → Progress → List Char
  | [], _, p => p.digits
  | n :: rest, previous, p =>
    let start := { p with distance := p.distance + (n - previous) * (p.placed + 1) }
    let done := label.foldl (Progress.pass basic n) start
    roundDigits label basic rest (n + 1) { done with distance := done.distance + 1 }

/-- The ASCII form of a label. -/
def encode (label : List Char) : List Char :=
  let basic := label.filter (·.toNat < 128)
  let others := (label.filter (128 ≤ ·.toNat)).map Char.toNat
  basic ++ (if basic.isEmpty then [] else ['-']) ++
    roundDigits label basic.length (others.eraseDups.mergeSort (· ≤ ·)) 128
      ⟨0, 72, basic.length, []⟩

/-! ## Reading -/

/-- What is known on the way through the digits: the label so far, where and at which code point
the last character was placed, the bias, and the distance being read with the weight and the
position of its next digit. -/
structure Reading where
  label : List Char
  index : Nat
  codePoint : Nat
  bias : Nat
  distance : Nat
  weight : Nat
  position : Nat

/-- Places the next character once its distance is read. -/
def Reading.place (r : Reading) (distance : Nat) : Option Reading :=
  let count := r.label.length + 1
  let goal := r.index + distance
  let codePoint := r.codePoint + goal / count
  let index := goal % count
  if codePoint.isValidChar then
    some ⟨r.label.take index ++ Char.ofNat codePoint :: r.label.drop index, index + 1, codePoint,
      adapt distance count (r.codePoint == 128 && r.index == 0), 0, 1, 36⟩
  else none

/-- Reads a digit. Distances and weights stay below `2^32`. -/
def Reading.step (r : Reading) (c : Char) : Option Reading := do
  let d ← digitValue? c
  let t := threshold r.bias r.position
  let distance := r.distance + d * r.weight
  if 0x100000000 ≤ r.index + distance then none
  if d < t then r.place distance
  else
    let weight := r.weight * (36 - t)
    if 0x100000000 ≤ weight then none
    return { r with distance, weight, position := r.position + 36 }

/-- The part before the last hyphen, and what follows it; without a hyphen, or with nothing before
it, all is what follows. -/
def splitHyphen (s : List Char) : List Char × List Char :=
  let digits := (s.reverse.takeWhile (· ≠ '-')).reverse
  let basic := s.take (s.length - digits.length - 1)
  if basic.isEmpty then ([], s) else (basic, digits)

/-- The label of an ASCII form. -/
def decode? (s : List Char) : Option (List Char) := do
  let (basic, digits) := splitHyphen s
  if !basic.all (·.toNat < 128) then none
  let r ← digits.foldlM Reading.step ⟨basic, 0, 128, 72, 0, 1, 36⟩
  if r.weight = 1 ∧ r.position = 36 then some r.label else none

end DeviceSecurity.Punycode
