/-! Finite numbers of the 64-bit binary floating-point format, and rounding to them. All
arithmetic is exact on natural numbers; the only loss is the one rounding per operation. -/
namespace ServerForge

/-- The number `significand * 2 ^ exponent`, negated if `negative`. The significand is below
`2 ^ 53`, and at least `2 ^ 52` unless the exponent is the least one, `-1074`. -/
structure Binary64 where
  negative : Bool
  significand : Nat
  exponent : Int
  deriving DecidableEq, Repr

namespace Binary64

def leastExponent : Int := -1074
def greatestExponent : Int := 971

def zero : Binary64 := ⟨false, 0, leastExponent⟩

def isZero (x : Binary64) : Bool := x.significand == 0

def neg (x : Binary64) : Binary64 := { x with negative := !x.negative }

/-- The nearest natural number to `num / den`; a half goes to the even neighbour. -/
def roundHalfEven (num den : Nat) : Nat :=
  let quotient := num / den
  let twice := 2 * (num % den)
  if twice < den ∨ (twice = den ∧ quotient % 2 = 0) then quotient else quotient + 1

/-- Numerator and denominator of `num / den / 2 ^ exponent`. -/
def scaled (num den : Nat) (exponent : Int) : Nat × Nat :=
  if exponent ≥ 0 then (num, den * Nat.pow 2 exponent.toNat)
  else (num * Nat.pow 2 (-exponent).toNat, den)

/-- The exponent at which `num / den` has a significand of 53 bits, or the least one. -/
def exponentFor (num den : Nat) : Int :=
  let guess : Int := (num.log2 : Int) - (den.log2 : Int) - 52
  let (n, d) := scaled num den guess
  max leastExponent (if n < Nat.pow 2 52 * d then guess - 1 else guess)

/-- The nearest number to `num / den`, or nothing if that is out of range. -/
def ofRatio? (num den : Nat) : Option Binary64 :=
  if num = 0 then some zero
  else
    let exponent := exponentFor num den
    let (n, d) := scaled num den exponent
    let significand := roundHalfEven n d
    let (significand, exponent) :=
      if significand = Nat.pow 2 53 then (Nat.pow 2 52, exponent + 1) else (significand, exponent)
    if exponent > greatestExponent then none else some ⟨false, significand, exponent⟩

/-- The magnitude as a ratio of natural numbers. -/
def ratio (x : Binary64) : Nat × Nat :=
  if x.exponent ≥ 0 then (x.significand * Nat.pow 2 x.exponent.toNat, 1)
  else (x.significand, Nat.pow 2 (-x.exponent).toNat)

/-- The rounded product of two magnitudes. -/
def mul? (x y : Binary64) : Option Binary64 :=
  let (n, d) := x.ratio
  let (n', d') := y.ratio
  ofRatio? (n * n') (d * d')

/-- The rounded quotient of two magnitudes; it is never out of range here, as every divisor
used is at least one. -/
def div (x y : Binary64) : Binary64 :=
  let (n, d) := x.ratio
  let (n', d') := y.ratio
  (ofRatio? (n * d') (d * n')).getD zero

/-- The greatest power of ten that is in range. -/
def greatestPower : Nat := 308

/-- A power of ten, rounded. -/
def powerOfTen (n : Nat) : Binary64 := (ofRatio? (Nat.pow 10 n) 1).getD zero

/-- Division by `10 ^ places`, in blocks of the greatest power of ten that is in range. -/
def shrink (x : Binary64) (places : Nat) : Binary64 :=
  if places ≤ greatestPower then x.div (powerOfTen places)
  else if x.isZero then x
  else shrink (x.div (powerOfTen greatestPower)) (places - greatestPower)
termination_by places
decreasing_by simp_all [greatestPower]; omega

/-- The value read for the digits `significand` with the decimal exponent `exponent`: the
significand is rounded first, then multiplied or divided by a rounded power of ten. Nothing
if that is out of range. -/
def ofDecimal? (significand : Nat) (exponent : Int) : Option Binary64 := do
  let x ← ofRatio? significand 1
  if exponent < 0 then return shrink x (-exponent).toNat
  else if exponent.toNat ≤ greatestPower then x.mul? (powerOfTen exponent.toNat)
  else if x.isZero then return x
  else none

end Binary64

end ServerForge
