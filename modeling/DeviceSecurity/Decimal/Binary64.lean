/-!
# Binary floating point numbers

The finite numbers of the 64-bit binary format, as a sign, a mantissa below `2^53` and a power of
two. `round` takes an exact quotient to the nearest of them, a tie to the even mantissa; product
and quotient are exact results rounded.
-/

namespace DeviceSecurity

/-- The number `±mantissa · 2^exponent`. -/
structure Binary64 where
  negative : Bool
  mantissa : Nat
  exponent : Int
deriving DecidableEq, Repr

namespace Binary64

/-- The least exponent, that of the numbers nearest zero. -/
def minExponent : Int := -1074

/-- The greatest exponent. -/
def maxExponent : Int := 971

/-- The bits in a full mantissa. -/
def precision : Nat := 53

/-- `n · 2^e` for a power that may be negative, as a quotient. -/
def scaled (n : Nat) (e : Int) : Nat × Nat :=
  (n * Nat.pow 2 e.toNat, Nat.pow 2 (-e).toNat)

/-- The quotient rounded to a whole number, a tie to the even one. -/
def roundQuotient (num den : Nat) : Nat :=
  let q := num / den
  let r := num % den
  if 2 * r < den ∨ (2 * r = den ∧ q % 2 = 0) then q else q + 1

/-- The nearest number to a quotient; `none` when it is beyond the largest. -/
def round (negative : Bool) (num den : Nat) : Option Binary64 :=
  if num = 0 then some ⟨negative, 0, minExponent⟩
  else
    let guess : Int := (num.log2 : Int) - den.log2 - (precision - 1 : Nat)
    let full := Nat.pow 2 (precision - 1)
    let fits (e : Int) : Bool := num * Nat.pow 2 (-e).toNat < full * den * Nat.pow 2 e.toNat
    let e := max minExponent (if fits guess then guess - 1 else guess)
    let m := roundQuotient (num * Nat.pow 2 (-e).toNat) (den * Nat.pow 2 e.toNat)
    let (m, e) := if m = 2 * full then (full, e + 1) else (m, e)
    if maxExponent < e then none else some ⟨negative, m, e⟩

/-- The nearest number to a whole number. -/
def ofNat (n : Nat) : Option Binary64 := round false n 1

/-- Zero. -/
def zero : Binary64 := ⟨false, 0, minExponent⟩

/-- Whether a number is zero, of either sign. -/
def isZero (x : Binary64) : Bool := x.mantissa == 0

/-- The number with its sign made as told. -/
def withSign (x : Binary64) (negative : Bool) : Binary64 := { x with negative }

/-- The product, rounded. -/
def mul (x y : Binary64) : Option Binary64 :=
  let (num, den) := scaled (x.mantissa * y.mantissa) (x.exponent + y.exponent)
  round (x.negative != y.negative) num den

/-- The quotient, rounded; the divisor must not be zero. -/
def div (x y : Binary64) : Option Binary64 :=
  let (num, den) := scaled x.mantissa (x.exponent - y.exponent)
  round (x.negative != y.negative) num (den * y.mantissa)

end Binary64

end DeviceSecurity
