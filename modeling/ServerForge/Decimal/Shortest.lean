import ServerForge.Decimal.Binary64
import ServerForge.Text.Digit

/-! The shortest decimal text that reads back as a given 64-bit number. `shortest` finds the
coarsest power of ten with a multiple that rounds to the number; `Layout` says how its digits
are set out. -/
namespace ServerForge.Decimal

/-- The reals that round to a number, as `lower / den` to `upper / den` around `value / den`;
the two ends belong to them when the significand is even. -/
structure Rounding where
  lower : Nat
  value : Nat
  upper : Nat
  den : Nat
  closed : Bool

/-- The gap below a power of two is half the gap above it. -/
def Rounding.of (x : Binary64) : Rounding :=
  let m := x.significand
  let below := if m = Nat.pow 2 52 ∧ x.exponent > Binary64.leastExponent then 1 else 2
  let up := Nat.pow 2 x.exponent.toNat
  ⟨(4 * m - below) * up, 4 * m * up, (4 * m + 2) * up, 4 * Nat.pow 2 (-x.exponent).toNat,
    m % 2 == 0⟩

/-- The same reals in units of `10 ^ k`. -/
def Rounding.inUnits (r : Rounding) (k : Int) : Rounding :=
  if k ≥ 0 then { r with den := r.den * Nat.pow 10 k.toNat }
  else
    let scale := Nat.pow 10 (-k).toNat
    { r with lower := r.lower * scale, value := r.value * scale, upper := r.upper * scale }

def Rounding.holds (r : Rounding) (n : Nat) : Bool :=
  if r.closed then r.lower ≤ n * r.den && n * r.den ≤ r.upper
  else r.lower < n * r.den && n * r.den < r.upper

/-- The neighbour of the value among the whole units that rounds to it: of two the nearer,
of two equally near the even one. -/
def Rounding.whole? (r : Rounding) : Option Nat :=
  let low := r.value / r.den
  match r.holds low, r.holds (low + 1) with
  | false, false => none
  | true, false => some low
  | false, true => some (low + 1)
  | true, true =>
    let twice := 2 * (r.value % r.den)
    if twice < r.den ∨ (twice = r.den ∧ low % 2 = 0) then some low else some (low + 1)

/-- Every finite number lies below `10 ^ 309` and has a digit at `10 ^ (-324)` or above. -/
def units : List Int := (List.range 634).map fun (i : Nat) => 309 - (i : Int)

/-- Digits and decimal exponent of the shortest text of a number other than zero. -/
def shortest (x : Binary64) : Nat × Int :=
  let r := Rounding.of x
  (units.findSome? fun k => ((r.inUnits k).whole?).map (·, k)).getD (0, 0)

/-- How digits are set out: positionally while the first digit's power of ten is within the
given bounds, else with an exponent. -/
structure Layout where
  leastPlain : Int
  greatestPlain : Int
  exponentMark : List Char
  positiveSign : List Char

/-- Plain notation from `0.00001` up to below `10 ^ 16`, then `1e+16` or `1e-6`. -/
def layout : Layout := ⟨-5, 15, ['e'], ['+']⟩

def exponentText (l : Layout) (power : Int) : List Char :=
  l.exponentMark ++ (if power < 0 then ['-'] else l.positiveSign) ++ Text.digits power.natAbs

/-- A whole number keeps the fraction `.0`. -/
def setOut (l : Layout) (significand : Nat) (exponent : Int) : List Char :=
  let ds := Text.digits significand
  let power := exponent + ds.length - 1
  if l.leastPlain ≤ power ∧ power ≤ l.greatestPlain then
    if exponent ≥ 0 then ds ++ List.replicate exponent.toNat '0' ++ ['.', '0']
    else if power ≥ 0 then ds.take (power.toNat + 1) ++ '.' :: ds.drop (power.toNat + 1)
    else ['0', '.'] ++ List.replicate ((-power).toNat - 1) '0' ++ ds
  else ds.take 1 ++ (if ds.length > 1 then '.' :: ds.drop 1 else []) ++ exponentText l power

def print (x : Binary64) : List Char :=
  let magnitude :=
    if x.isZero then ['0', '.', '0']
    else
      let (significand, exponent) := shortest x
      setOut layout significand exponent
  if x.negative then '-' :: magnitude else magnitude

end ServerForge.Decimal
