import DeviceSecurity.Decimal.Binary64

/-!
# Shortest decimals

`Binary64.shortest` finds the decimal with the fewest digits among those that round to a given
number, and among these the nearest. It looks at the numbers that round to the given one, an
interval around it whose ends count when the mantissa is even, and tests for one, two, … seventeen
digits the two neighbours on that decimal grid.
-/

namespace DeviceSecurity

/-- The decimal `digits · 10^exponent`. -/
structure Scientific where
  digits : Nat
  exponent : Int
deriving DecidableEq, Repr

namespace Scientific

/-- Drops trailing zeros, of which there are at most `fuel`. -/
def dropZeros : (fuel : Nat) → Scientific → Scientific
  | 0, s => s
  | fuel + 1, s =>
    if s.digits % 10 = 0 ∧ s.digits ≠ 0 then dropZeros fuel ⟨s.digits / 10, s.exponent + 1⟩ else s

end Scientific

namespace Binary64

/-- The power of ten of the first digit of `num / den`. -/
def leadingPower (num den : Nat) : Int :=
  if den ≤ num then ((Nat.toDigits 10 (num / den)).length : Int) - 1
  else -((Nat.toDigits 10 ((den + num - 1) / num - 1)).length : Int)

/-- The shortest decimal for a number other than zero, tried with the given digit counts. -/
def shortestAmong (x : Binary64) : List Nat → Scientific
  | [] => ⟨0, 0⟩
  | count :: more =>
    -- everything in quarters of a unit of the last place
    let low := 4 * x.mantissa -
      (if x.mantissa = Nat.pow 2 (precision - 1) ∧ minExponent < x.exponent then 1 else 2)
    let high := 4 * x.mantissa + 2
    let unit := x.exponent - 2
    let (num, den) := scaled (4 * x.mantissa) unit
    let grid := leadingPower num den - (count - 1 : Nat)
    -- the value on the grid is `num / den / 10^grid`
    let num' := num * Nat.pow 10 (-grid).toNat
    let den' := den * Nat.pow 10 grid.toNat
    let below := num' / den'
    let inside (c : Nat) : Bool :=
      -- compares `c · 10^grid` with the ends, both multiplied out
      let point := c * Nat.pow 10 grid.toNat * Nat.pow 2 (-unit).toNat
      let scale := Nat.pow 10 (-grid).toNat * Nat.pow 2 unit.toNat
      if x.mantissa % 2 = 0 then low * scale ≤ point && point ≤ high * scale
      else low * scale < point && point < high * scale
    let r := num' % den'
    let nearer := if 2 * r < den' ∨ (2 * r = den' ∧ below % 2 = 0) then below else below + 1
    let other := if nearer = below then below + 1 else below
    if inside nearer then Scientific.dropZeros count ⟨nearer, grid⟩
    else if inside other then Scientific.dropZeros count ⟨other, grid⟩
    else shortestAmong x more

/-- The shortest decimal that rounds to a number. Seventeen digits always do. -/
def shortest (x : Binary64) : Scientific :=
  if x.isZero then ⟨0, 0⟩ else shortestAmong x ((List.range 17).map (· + 1))

end Binary64

end DeviceSecurity
