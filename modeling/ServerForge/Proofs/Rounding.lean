import Mathlib.Algebra.Order.Field.Rat
import Mathlib.Tactic.FieldSimp
import Mathlib.Tactic.Linarith
import Mathlib.Tactic.Positivity
import Mathlib.Tactic.Ring
import ServerForge.Decimal.Binary64

/-! How far rounding to a 64-bit number goes. Main statements: what is rounded fits the format, the
error is at most one part in `2 ^ 53`, and a decimal number is only out of range if it is above all
numbers of the format but the very last. -/
namespace ServerForge.Binary64

def magnitude (x : Binary64) : ℚ := x.significand * (2 : ℚ) ^ x.exponent

theorem magnitude_nonneg (x : Binary64) : 0 ≤ x.magnitude :=
  mul_nonneg (Nat.cast_nonneg _) (zpow_pos two_pos _).le

/-- The bounds of the format, normal form aside. -/
structure Valid (x : Binary64) : Prop where
  significand : x.significand < 2 ^ 53
  exponent : x.exponent ≤ greatestExponent

theorem Valid.signed {x : Binary64} (valid : x.Valid) (negative : Bool) :
    Valid { x with negative } := ⟨valid.significand, valid.exponent⟩

theorem pow_toNat {e : Int} (nonnegative : 0 ≤ e) : ((2 ^ e.toNat : Nat) : ℚ) = (2 : ℚ) ^ e := by
  rw [Nat.cast_pow, Nat.cast_ofNat, ← zpow_natCast, Int.toNat_of_nonneg nonnegative]

/-! ## One rounding -/

theorem scaled_eq (num : Nat) {den : Nat} (positive : 0 < den) (e : Int) :
    0 < (scaled num den e).2 ∧
      ((scaled num den e).1 : ℚ) / (scaled num den e).2 = num / den / (2 : ℚ) ^ e := by
  simp only [scaled, Nat.pow_eq]
  split
  next up =>
    refine ⟨by positivity, ?_⟩
    rw [Nat.cast_mul, pow_toNat up, div_div]
  next down =>
    refine ⟨positive, ?_⟩
    rw [Nat.cast_mul, pow_toNat (by omega), zpow_neg, div_div, mul_comm (den : ℚ), ← div_div,
      div_eq_mul_inv (num : ℚ) ((2 : ℚ) ^ e)]

/-- The logarithms give the quotient up to a factor of two. -/
theorem quotient_between {num den : Nat} (hnum : 0 < num) (hden : 0 < den) :
    (2 : ℚ) ^ ((num.log2 : Int) - den.log2 - 1) < num / den ∧
      (num : ℚ) / den < (2 : ℚ) ^ ((num.log2 : Int) - den.log2 + 1) := by
  have numLow : (2 : ℚ) ^ (num.log2 : Int) ≤ num := by
    rw [zpow_natCast]
    exact_mod_cast Nat.log2_self_le hnum.ne'
  have numHigh : (num : ℚ) < 2 ^ ((num.log2 : Int) + 1) := by
    rw [← Nat.cast_succ, zpow_natCast]
    exact_mod_cast Nat.lt_log2_self
  have denLow : (2 : ℚ) ^ (den.log2 : Int) ≤ den := by
    rw [zpow_natCast]
    exact_mod_cast Nat.log2_self_le hden.ne'
  have denHigh : (den : ℚ) < 2 ^ ((den.log2 : Int) + 1) := by
    rw [← Nat.cast_succ, zpow_natCast]
    exact_mod_cast Nat.lt_log2_self
  have positive : (0 : ℚ) < den := by exact_mod_cast hden
  constructor
  · rw [lt_div_iff₀ positive]
    calc (2 : ℚ) ^ ((num.log2 : Int) - den.log2 - 1) * den
        < 2 ^ ((num.log2 : Int) - den.log2 - 1) * 2 ^ ((den.log2 : Int) + 1) :=
          mul_lt_mul_of_pos_left denHigh (zpow_pos two_pos _)
      _ = 2 ^ (num.log2 : Int) := by
          rw [← zpow_add₀ (by norm_num)]
          congr 1
          ring
      _ ≤ num := numLow
  · rw [div_lt_iff₀ positive]
    calc (num : ℚ) < 2 ^ ((num.log2 : Int) + 1) := numHigh
      _ = 2 ^ ((num.log2 : Int) - den.log2 + 1) * 2 ^ (den.log2 : Int) := by
          rw [← zpow_add₀ (by norm_num)]
          congr 1
          ring
      _ ≤ 2 ^ ((num.log2 : Int) - den.log2 + 1) * den :=
          mul_le_mul_of_nonneg_left denLow (zpow_pos two_pos _).le

/-- The exponent chosen leaves a significand below `2 ^ 53`, and of 53 bits unless the exponent
is the least one. -/
theorem exponentFor_spec {num den : Nat} (hnum : 0 < num) (hden : 0 < den) :
    (num : ℚ) / den / (2 : ℚ) ^ exponentFor num den < 2 ^ 53 ∧
      (leastExponent < exponentFor num den →
        2 ^ 52 ≤ (num : ℚ) / den / (2 : ℚ) ^ exponentFor num den) := by
  obtain ⟨low, high⟩ := quotient_between hnum hden
  obtain ⟨positive, value⟩ := scaled_eq num hden ((num.log2 : Int) - den.log2 - 52)
  set guess : Int := (num.log2 : Int) - den.log2 - 52 with hguess
  set r : ℚ := (num : ℚ) / den with hr
  have guessHigh : r / (2 : ℚ) ^ guess < 2 ^ 53 := by
    rw [div_lt_iff₀ (zpow_pos two_pos _), ← zpow_natCast, ← zpow_add₀ two_ne_zero,
      show ((53 : Nat) : Int) + guess = num.log2 - den.log2 + 1 by omega]
    exact high
  have guessLow : (2 : ℚ) ^ 51 < r / (2 : ℚ) ^ guess := by
    rw [lt_div_iff₀ (zpow_pos two_pos _), ← zpow_natCast, ← zpow_add₀ two_ne_zero,
      show ((51 : Nat) : Int) + guess = num.log2 - den.log2 - 1 by omega]
    exact low
  have below : (scaled num den guess).1 < 2 ^ 52 * (scaled num den guess).2 ↔
      r / (2 : ℚ) ^ guess < 2 ^ 52 := by
    rw [← value, div_lt_iff₀ (by exact_mod_cast positive)]
    exact_mod_cast Iff.rfl
  have lowered : r / (2 : ℚ) ^ (guess - 1) = 2 * (r / (2 : ℚ) ^ guess) := by
    rw [zpow_sub_one₀ two_ne_zero]
    field_simp
  -- The exponent before it is bounded from below.
  obtain ⟨e, chosen, small, large⟩ : ∃ e, exponentFor num den = max leastExponent e ∧
      r / (2 : ℚ) ^ e < 2 ^ 53 ∧ 2 ^ 52 ≤ r / (2 : ℚ) ^ e := by
    by_cases short : (scaled num den guess).1 < 2 ^ 52 * (scaled num den guess).2
    · refine ⟨guess - 1, by simp only [exponentFor, ← hguess, Nat.pow_eq, if_pos short], ?_, ?_⟩
      · rw [lowered]
        linarith [below.mp short]
      · rw [lowered]
        linarith
    · refine ⟨guess, by simp only [exponentFor, ← hguess, Nat.pow_eq, if_neg short], guessHigh, ?_⟩
      exact not_lt.mp fun less => short (below.mpr less)
  have nonnegative : 0 ≤ r := by positivity
  rw [chosen]
  constructor
  · calc r / (2 : ℚ) ^ max leastExponent e ≤ r / (2 : ℚ) ^ e :=
          div_le_div_of_nonneg_left nonnegative (zpow_pos two_pos _)
            (zpow_le_zpow_right₀ one_le_two (le_max_right _ _))
      _ < 2 ^ 53 := small
  · intro above
    rwa [max_eq_right (by omega)]

/-- Half a unit is the greatest error. -/
theorem roundHalfEven_near (num : Nat) {den : Nat} (positive : 0 < den) :
    (roundHalfEven num den : ℚ) ≤ num / den + 1 / 2 ∧
      (num : ℚ) / den ≤ roundHalfEven num den + 1 / 2 := by
  have division : den * (num / den) + num % den = num := Nat.div_add_mod num den
  have remainder : num % den < den := Nat.mod_lt num positive
  have cast : (den : ℚ) * (num / den : Nat) + (num % den : Nat) = num := by exact_mod_cast division
  have hden : (0 : ℚ) < den := by exact_mod_cast positive
  unfold roundHalfEven
  dsimp only
  rw [div_add' _ _ _ hden.ne', le_div_iff₀ hden, div_le_iff₀ hden]
  split
  next down =>
    have half : 2 * ((num % den : Nat) : ℚ) ≤ den := by
      have : 2 * (num % den) ≤ den := by omega
      exact_mod_cast this
    have some : (0 : ℚ) ≤ (num % den : Nat) := Nat.cast_nonneg _
    constructor <;> nlinarith
  next up =>
    have half : (den : ℚ) ≤ 2 * (num % den : Nat) := by
      have : den ≤ 2 * (num % den) := by omega
      exact_mod_cast this
    have rest : ((num % den : Nat) : ℚ) ≤ den := by exact_mod_cast remainder.le
    push_cast
    constructor <;> nlinarith

/-- What is rounded has a significand of at most 53 bits, the carry included. -/
theorem roundHalfEven_le {num den bound : Nat} (positive : 0 < den)
    (below : (num : ℚ) / den < bound) : roundHalfEven num den ≤ bound := by
  have near := (roundHalfEven_near num positive).1
  have less : (roundHalfEven num den : ℚ) < (bound + 1 : Nat) := by
    push_cast
    linarith
  exact Nat.lt_succ_iff.mp (by exact_mod_cast less)

/-! ## Rounding a quotient -/

/-- What a rounded quotient is: a significand that is off by at most a half, at the exponent
chosen, unless that leaves the range. -/
theorem ofRatio?_cases {num den : Nat} (hnum : 0 < num) (hden : 0 < den) :
    ∃ (q : Nat) (e : Int), q ≤ 2 ^ 53 ∧
      (q : ℚ) ≤ num / den / (2 : ℚ) ^ e + 1 / 2 ∧ (num : ℚ) / den / (2 : ℚ) ^ e ≤ q + 1 / 2 ∧
      (num : ℚ) / den / (2 : ℚ) ^ e < 2 ^ 53 ∧
      (leastExponent < e → 2 ^ 52 ≤ (num : ℚ) / den / (2 : ℚ) ^ e) ∧
      (ofRatio? num den = none ∧ (greatestExponent < e ∨ greatestExponent = e ∧ q = 2 ^ 53) ∨
        ∃ x, ofRatio? num den = some x ∧ x.Valid ∧ x.magnitude = q * (2 : ℚ) ^ e) := by
  obtain ⟨positive, value⟩ := scaled_eq num hden (exponentFor num den)
  obtain ⟨small, large⟩ := exponentFor_spec hnum hden
  obtain ⟨high, low⟩ := roundHalfEven_near (scaled num den (exponentFor num den)).1 positive
  have bits : roundHalfEven (scaled num den (exponentFor num den)).1
      (scaled num den (exponentFor num den)).2 ≤ 2 ^ 53 :=
    roundHalfEven_le positive (by rw [value]; exact_mod_cast small)
  rw [value] at high low
  refine ⟨_, exponentFor num den, bits, high, low, small, large, ?_⟩
  have computed : ofRatio? num den =
      let q := roundHalfEven (scaled num den (exponentFor num den)).1
        (scaled num den (exponentFor num den)).2
      let carried := if q = 2 ^ 53 then (2 ^ 52, exponentFor num den + 1)
        else (q, exponentFor num den)
      if carried.2 > greatestExponent then none else some ⟨false, carried.1, carried.2⟩ :=
    if_neg hnum.ne'
  rw [computed]
  generalize roundHalfEven (scaled num den (exponentFor num den)).1
    (scaled num den (exponentFor num den)).2 = q at bits
  generalize exponentFor num den = e
  dsimp only
  by_cases carry : q = 2 ^ 53
  · rw [if_pos carry]
    dsimp only
    by_cases out : e + 1 > greatestExponent
    · rw [if_pos out]
      exact .inl ⟨rfl, by omega⟩
    · rw [if_neg out]
      refine .inr ⟨_, rfl, ⟨by norm_num, not_lt.mp out⟩, ?_⟩
      subst carry
      rw [magnitude, zpow_add_one₀ two_ne_zero]
      push_cast
      ring
  · rw [if_neg carry]
    dsimp only
    by_cases out : e > greatestExponent
    · rw [if_pos out]
      exact .inl ⟨rfl, .inl out⟩
    · rw [if_neg out]
      exact .inr ⟨_, rfl, ⟨lt_of_le_of_ne bits carry, not_lt.mp out⟩, rfl⟩

theorem zero_valid : zero.Valid := ⟨by decide, by decide⟩

theorem ofRatio?_valid {num den : Nat} (positive : 0 < den) {x : Binary64}
    (rounded : ofRatio? num den = some x) : x.Valid := by
  rcases Nat.eq_zero_or_pos num with none | hnum
  · subst none
    cases rounded
    exact zero_valid
  · obtain ⟨q, e, _, _, _, _, _, ⟨out, _⟩ | ⟨y, found, valid, _⟩⟩ := ofRatio?_cases hnum positive
    · rw [out] at rounded
      cases rounded
    · rw [found] at rounded
      cases rounded
      exact valid

/-- The least magnitude that is out of range. -/
def overflow : ℚ := (2 ^ 53 - 1 / 2) * 2 ^ (971 : Int)

theorem overflow_le_of_eq_none {num den : Nat} (positive : 0 < den)
    (out : ofRatio? num den = none) : overflow ≤ num / den := by
  rcases Nat.eq_zero_or_pos num with none | hnum
  · subst none
    cases out
  · obtain ⟨q, e, _, high, _, _, large, ⟨_, beyond⟩ | ⟨x, found, _⟩⟩ :=
      ofRatio?_cases hnum positive
    · have unit : (0 : ℚ) < 2 ^ e := zpow_pos two_pos _
      have last : (0 : ℚ) < 2 ^ (971 : Int) := zpow_pos two_pos _
      unfold overflow
      rcases beyond with above | ⟨rfl, full⟩
      · have bits := large (lt_trans (by decide) above)
        rw [le_div_iff₀ unit] at bits
        have grows : (2 : ℚ) ^ (971 : Int) * 2 ≤ 2 ^ e := by
          rw [← zpow_add_one₀ two_ne_zero]
          exact zpow_le_zpow_right₀ one_le_two (by unfold greatestExponent at above; omega)
        generalize (2 : ℚ) ^ (971 : Int) = u at last grows ⊢
        linarith
      · have near : (2 ^ 53 - 1 / 2 : ℚ) ≤ num / den / 2 ^ greatestExponent := by
          have exact : (q : ℚ) = 2 ^ 53 := by exact_mod_cast full
          linarith
        exact (le_div_iff₀ unit).mp near
    · rw [found] at out
      cases out

/-- From one on, rounding is off by at most one part in `2 ^ 53`. -/
theorem magnitude_near {num den : Nat} (positive : 0 < den) (large : den ≤ num) {x : Binary64}
    (rounded : ofRatio? num den = some x) :
    num / den * (1 - 1 / 2 ^ 53) ≤ x.magnitude ∧ x.magnitude ≤ num / den * (1 + 1 / 2 ^ 53) := by
  obtain ⟨q, e, _, high, low, small, bits, ⟨out, _⟩ | ⟨y, found, _, value⟩⟩ :=
    ofRatio?_cases (lt_of_lt_of_le positive large) positive
  · rw [out] at rounded
    cases rounded
  · rw [found] at rounded
    cases rounded
    have unit : (0 : ℚ) < 2 ^ e := zpow_pos two_pos _
    have one : (1 : ℚ) ≤ num / den := by
      rw [le_div_iff₀ (by exact_mod_cast positive), one_mul]
      exact_mod_cast large
    have above : leastExponent < e := by
      by_contra least
      have tiny : (2 : ℚ) ^ e ≤ 2 ^ (-53 : Int) :=
        zpow_le_zpow_right₀ one_le_two (by unfold leastExponent at least; omega)
      have shrunk : (2 : ℚ) ^ (-53 : Int) = 1 / 2 ^ 53 := by norm_num
      rw [div_lt_iff₀ unit] at small
      rw [shrunk] at tiny
      linarith
    have full := bits above
    rw [le_div_iff₀ unit] at full
    have upper : (q : ℚ) * 2 ^ e ≤ num / den + 1 / 2 * 2 ^ e := by
      have scaled := mul_le_mul_of_nonneg_right high unit.le
      rwa [add_mul, div_mul_cancel₀ _ unit.ne'] at scaled
    have lower : (num : ℚ) / den ≤ q * 2 ^ e + 1 / 2 * 2 ^ e := by
      have scaled := mul_le_mul_of_nonneg_right low unit.le
      rwa [add_mul, div_mul_cancel₀ _ unit.ne'] at scaled
    rw [value]
    constructor <;> linarith

/-! ## Reading decimals -/

theorem ratio_eq (x : Binary64) :
    0 < x.ratio.2 ∧ (x.ratio.1 : ℚ) / x.ratio.2 = x.magnitude := by
  simp only [ratio, magnitude, Nat.pow_eq]
  split
  next up =>
    refine ⟨one_pos, ?_⟩
    rw [Nat.cast_mul, pow_toNat up, Nat.cast_one, div_one]
  next down =>
    refine ⟨by positivity, ?_⟩
    rw [pow_toNat (by omega), zpow_neg, div_inv_eq_mul]

theorem mul?_eq (x y : Binary64) :
    x.mul? y = ofRatio? (x.ratio.1 * y.ratio.1) (x.ratio.2 * y.ratio.2) := rfl

theorem mul?_valid {x y z : Binary64} (product : x.mul? y = some z) : z.Valid :=
  ofRatio?_valid (Nat.mul_pos (ratio_eq x).1 (ratio_eq y).1) ((mul?_eq x y).symm.trans product)

theorem overflow_le_of_mul?_eq_none {x y : Binary64} (out : x.mul? y = none) :
    overflow ≤ x.magnitude * y.magnitude := by
  rw [mul?_eq] at out
  have bound := overflow_le_of_eq_none (Nat.mul_pos (ratio_eq x).1 (ratio_eq y).1) out
  rwa [Nat.cast_mul, Nat.cast_mul, mul_div_mul_comm, (ratio_eq x).2, (ratio_eq y).2] at bound

/-- Numbers up to the third from the top: two more roundings keep them in range. -/
def almost : ℚ := (2 ^ 53 - 5 / 2) * 2 ^ (971 : Int)

theorem almost_lt_overflow : almost * (1 + 1 / 2 ^ 53) ^ 2 < overflow := by
  unfold almost overflow
  have last : (0 : ℚ) < 2 ^ (971 : Int) := zpow_pos two_pos _
  generalize (2 : ℚ) ^ (971 : Int) = u at last ⊢
  have factor : (2 ^ 53 - 5 / 2 : ℚ) * (1 + 1 / 2 ^ 53) ^ 2 < 2 ^ 53 - 1 / 2 := by norm_num
  calc (2 ^ 53 - 5 / 2) * u * (1 + 1 / 2 ^ 53) ^ 2
      = (2 ^ 53 - 5 / 2) * (1 + 1 / 2 ^ 53) ^ 2 * u := by ring
    _ < (2 ^ 53 - 1 / 2) * u := mul_lt_mul_of_pos_right factor last

theorem almost_lt_pow : almost < 10 ^ 309 := by
  have step : (2 : ℚ) ^ 93 < 10 ^ 28 := by norm_num
  have bound : (2 : ℚ) ^ 53 * 2 ^ 971 < 10 ^ 309 :=
    calc (2 : ℚ) ^ 53 * 2 ^ 971 = (2 ^ 93) ^ 11 * 2 := by rw [← pow_add, ← pow_mul, ← pow_succ]
      _ < (10 ^ 28) ^ 11 * 10 :=
        mul_lt_mul'' (pow_lt_pow_left₀ step (by positivity) (by decide)) (by norm_num)
          (by positivity) two_pos.le
      _ = 10 ^ 309 := by rw [← pow_mul, ← pow_succ]
  refine lt_trans ?_ bound
  unfold almost
  rw [← zpow_natCast (2 : ℚ) 971]
  exact mul_lt_mul_of_pos_right (by norm_num) (zpow_pos two_pos _)

theorem pow_le_almost : 10 ^ greatestPower ≤ almost := by
  -- the two powers are so close that the eleventh power of their quotient is below 3 / 2
  have step : (10 : ℚ) ^ 28 ≤ 101 / 100 * 2 ^ 93 := by norm_num
  have bound : (10 : ℚ) ^ greatestPower ≤ 3 * 2 ^ 51 * 2 ^ 971 :=
    calc (10 : ℚ) ^ greatestPower = (10 ^ 28) ^ 11 := by rw [greatestPower, ← pow_mul]
      _ ≤ (101 / 100 * 2 ^ 93) ^ 11 := pow_le_pow_left₀ (by positivity) step 11
      _ = (101 / 100) ^ 11 * 2 * 2 ^ 51 * 2 ^ 971 := by
        rw [mul_pow, ← pow_mul, mul_assoc, mul_assoc, ← pow_add, ← pow_succ']
      _ ≤ 3 * 2 ^ 51 * 2 ^ 971 := by
        refine mul_le_mul_of_nonneg_right ?_ (by positivity)
        exact mul_le_mul_of_nonneg_right (by norm_num) (by positivity)
  refine le_trans bound ?_
  unfold almost
  rw [← zpow_natCast (2 : ℚ) 971]
  exact mul_le_mul_of_nonneg_right (by norm_num) (zpow_pos two_pos _).le

theorem one_lt_almost : 2 ^ 64 < almost := by
  have grows : (2 : ℚ) ^ (64 : Int) ≤ 2 ^ (971 : Int) := zpow_le_zpow_right₀ one_le_two (by decide)
  have last : (0 : ℚ) < 2 ^ (971 : Int) := zpow_pos two_pos _
  unfold almost
  rw [← zpow_natCast (2 : ℚ) 64]
  generalize (2 : ℚ) ^ (971 : Int) = u at grows last ⊢
  exact lt_of_le_of_lt grows (by linarith)

theorem almost_lt : almost < overflow := by
  unfold almost overflow
  exact mul_lt_mul_of_pos_right (by norm_num) (zpow_pos two_pos _)

theorem exists_ofRatio? {num den : Nat} (positive : 0 < den) (range : (num : ℚ) / den ≤ almost) :
    ∃ x, ofRatio? num den = some x := by
  cases rounded : ofRatio? num den with
  | none =>
    have out := overflow_le_of_eq_none positive rounded
    exact absurd almost_lt (not_lt.mpr (out.trans range))
  | some x => exact ⟨x, rfl⟩

theorem powerOfTen_positive {n : Nat} (inRange : n ≤ greatestPower) :
    0 < (powerOfTen n).ratio.1 := by
  have one : 1 ≤ 10 ^ n := Nat.one_le_pow n 10 (by decide)
  have range : ((10 ^ n : Nat) : ℚ) / (1 : Nat) ≤ almost := by
    rw [Nat.cast_one, div_one]
    refine le_trans ?_ pow_le_almost
    push_cast
    exact pow_le_pow_right₀ (by norm_num) inRange
  obtain ⟨x, rounded⟩ := exists_ofRatio? one_pos range
  have near := (magnitude_near one_pos one rounded).1
  have least : (1 : ℚ) ≤ (10 ^ n : Nat) := by exact_mod_cast one
  have positive : 0 < x.magnitude := by
    rw [Nat.cast_one, div_one] at near
    linarith
  obtain ⟨denominator, value⟩ := ratio_eq x
  rw [← value] at positive
  rw [powerOfTen, Nat.pow_eq, rounded, Option.getD_some]
  rcases Nat.eq_zero_or_pos x.ratio.1 with none | some
  · rw [none] at positive
    norm_num at positive
  · exact some

theorem magnitude_powerOfTen_le (n : Nat) :
    (powerOfTen n).magnitude ≤ 10 ^ n * (1 + 1 / 2 ^ 53) := by
  unfold powerOfTen
  cases rounded : ofRatio? (10 ^ n) 1 with
  | none =>
    have nothing : zero.magnitude = 0 := by norm_num [zero, magnitude]
    rw [Option.getD_none, nothing]
    positivity
  | some x =>
    have bound := (magnitude_near one_pos (Nat.one_le_pow n 10 (by decide)) rounded).2
    rw [Nat.cast_pow, Nat.cast_one, div_one] at bound
    exact_mod_cast bound

theorem div_eq (x y : Binary64) :
    x.div y = (ofRatio? (x.ratio.1 * y.ratio.2) (x.ratio.2 * y.ratio.1)).getD zero := rfl

theorem div_valid (x : Binary64) {n : Nat} (inRange : n ≤ greatestPower) :
    (x.div (powerOfTen n)).Valid := by
  have divisor : 0 < x.ratio.2 * (powerOfTen n).ratio.1 :=
    Nat.mul_pos (ratio_eq x).1 (powerOfTen_positive inRange)
  rw [div_eq]
  cases rounded : ofRatio? (x.ratio.1 * (powerOfTen n).ratio.2)
      (x.ratio.2 * (powerOfTen n).ratio.1) with
  | none => exact zero_valid
  | some y => exact ofRatio?_valid divisor rounded

theorem shrink_valid {x : Binary64} (valid : x.Valid) (places : Nat) : (shrink x places).Valid := by
  fun_induction shrink x places with
  | case1 x places inRange => exact div_valid x inRange
  | case2 => exact valid
  | case3 x places _ _ ih => exact ih (div_valid x le_rfl)

/-- Whatever is read for a decimal fits the format. -/
theorem ofDecimal?_valid {significand : Nat} {exponent : Int} {x : Binary64}
    (found : ofDecimal? significand exponent = some x) : x.Valid := by
  unfold ofDecimal? at found
  cases rounded : ofRatio? significand 1 with
  | none => simp [rounded] at found
  | some y =>
    have valid : y.Valid := ofRatio?_valid one_pos rounded
    simp only [rounded, Option.bind_eq_bind, Option.bind_some] at found
    split at found
    · cases found
      exact shrink_valid valid _
    split at found
    · exact mul?_valid found
    split at found
    · cases found
      exact valid
    · cases found

theorem ofDecimal?_isSome {significand : Nat} {exponent : Int} (fits : significand < 2 ^ 64)
    (range : (significand : ℚ) * 10 ^ exponent ≤ almost) :
    (ofDecimal? significand exponent).isSome = true := by
  obtain ⟨x, rounded⟩ : ∃ x, ofRatio? significand 1 = some x := by
    have below : (significand : ℚ) < 2 ^ 64 := by exact_mod_cast fits
    exact exists_ofRatio? one_pos (by rw [Nat.cast_one, div_one]; linarith [one_lt_almost])
  unfold ofDecimal?
  simp only [rounded, Option.bind_eq_bind, Option.bind_some]
  by_cases down : exponent < 0
  · rw [if_pos down]
    rfl
  obtain ⟨places, rfl⟩ := Int.eq_ofNat_of_zero_le (not_lt.mp down)
  rw [if_neg down, Int.toNat_natCast]
  rw [zpow_natCast] at range
  rcases Nat.eq_zero_or_pos significand with none | positive
  · subst none
    cases rounded
    have nothing : zero.mul? (powerOfTen places) = some zero := by
      rw [mul?_eq, show zero.ratio.1 = 0 from rfl, Nat.zero_mul]
      rfl
    rw [nothing, show zero.isZero = true from rfl, if_pos rfl]
    exact ite_self _ ▸ rfl
  have least : (1 : ℚ) ≤ significand := by exact_mod_cast positive
  have power : (0 : ℚ) < 10 ^ places := by positivity
  have inRange : places ≤ greatestPower := by
    by_contra above
    have grows : (10 : ℚ) ^ 309 ≤ 10 ^ places :=
      pow_le_pow_right₀ (by norm_num) (by unfold greatestPower at above; omega)
    have large : (10 : ℚ) ^ places ≤ almost := (le_mul_of_one_le_left power.le least).trans range
    exact absurd almost_lt_pow (not_lt.mpr (grows.trans large))
  rw [if_pos inRange]
  cases product : x.mul? (powerOfTen places) with
  | some y => rfl
  | none =>
    have first := (magnitude_near one_pos positive rounded).2
    rw [Nat.cast_one, div_one] at first
    have second := magnitude_powerOfTen_le places
    have bound : x.magnitude * (powerOfTen places).magnitude < overflow := by
      calc x.magnitude * (powerOfTen places).magnitude
          ≤ significand * (1 + 1 / 2 ^ 53) * (10 ^ places * (1 + 1 / 2 ^ 53)) :=
            mul_le_mul first second (magnitude_nonneg _) (by positivity)
        _ = significand * 10 ^ places * (1 + 1 / 2 ^ 53) ^ 2 := by ring
        _ ≤ almost * (1 + 1 / 2 ^ 53) ^ 2 := mul_le_mul_of_nonneg_right range (by positivity)
        _ < overflow := almost_lt_overflow
    exact absurd (overflow_le_of_mul?_eq_none product) (not_le.mpr bound)

end ServerForge.Binary64
