import ServerForge.Proofs.Literals
import ServerForge.Proofs.Numerals
import ServerForge.Proofs.Rounding

/-! The text of a 64-bit number, read again. Main statement: it is read to its end and is never out
of range, although reading rounds more often than once. -/
namespace ServerForge.Decimal

open Binary64 (almost ofDecimal?)
open Json

/-! ## Which decimal is printed -/

theorem whole?_holds {r : Rounding} {n : Nat} (found : r.whole? = some n) : r.holds n = true := by
  unfold Rounding.whole? at found
  dsimp only at found
  split at found
  next => cases found
  next low _ => cases found; exact low
  next _ high => cases found; exact high
  next low high =>
    split at found
    · cases found
      exact low
    · cases found
      exact high

theorem holds_le {r : Rounding} {k : Int} {n : Nat} (positive : 0 < r.den)
    (holds : (r.inUnits k).holds n = true) : (n : ℚ) * 10 ^ k ≤ r.upper / r.den := by
  have hden : (0 : ℚ) < r.den := by exact_mod_cast positive
  have bound : n * (r.inUnits k).den ≤ (r.inUnits k).upper := by
    unfold Rounding.holds at holds
    split at holds
    all_goals
      simp only [Bool.and_eq_true, decide_eq_true_eq] at holds
      omega
  rw [le_div_iff₀ hden]
  unfold Rounding.inUnits at bound
  split at bound
  next up =>
    have cast : (n : ℚ) * (r.den * 10 ^ k.toNat) ≤ r.upper := by exact_mod_cast bound
    rw [← zpow_natCast, Int.toNat_of_nonneg up] at cast
    linarith
  next down =>
    have cast : (n : ℚ) * r.den ≤ r.upper * 10 ^ (-k).toNat := by exact_mod_cast bound
    rw [← zpow_natCast, Int.toNat_of_nonneg (by omega)] at cast
    have power : (0 : ℚ) < 10 ^ k := zpow_pos (by norm_num) k
    have cancel : (10 : ℚ) ^ (-k) * 10 ^ k = 1 := by
      rw [zpow_neg, inv_mul_cancel₀ power.ne']
    calc (n : ℚ) * 10 ^ k * r.den = n * r.den * 10 ^ k := by ring
      _ ≤ r.upper * 10 ^ (-k) * 10 ^ k := mul_le_mul_of_nonneg_right cast power.le
      _ = r.upper := by rw [mul_assoc, cancel, mul_one]

theorem not_holds_zero {r : Rounding} (k : Int) (positive : 0 < r.lower) :
    (r.inUnits k).holds 0 = false := by
  have lower : 0 < (r.inUnits k).lower := by
    unfold Rounding.inUnits
    split
    · exact positive
    · exact Nat.mul_pos positive (Nat.pow_pos (by decide))
  unfold Rounding.holds
  split
  · simpa using lower.ne'
  · simp

theorem lower_positive {x : Binary64} (nonzero : 0 < x.significand) :
    0 < (Rounding.of x).lower := by
  unfold Rounding.of
  refine Nat.mul_pos ?_ (Nat.pow_pos (by decide))
  split <;> omega

theorem den_positive (x : Binary64) : 0 < (Rounding.of x).den :=
  Nat.mul_pos (by decide) (Nat.pow_pos (by decide))

/-- What rounds to a number is at most half a unit above it. -/
theorem upper_eq (x : Binary64) :
    ((Rounding.of x).upper : ℚ) / (Rounding.of x).den =
      (x.significand + 1 / 2) * 2 ^ x.exponent := by
  have split : (2 : ℚ) ^ x.exponent = 2 ^ x.exponent.toNat / 2 ^ (-x.exponent).toNat := by
    rw [← zpow_natCast, ← zpow_natCast, ← zpow_sub₀ two_ne_zero]
    congr 1
    omega
  rw [split]
  simp only [Rounding.of, Nat.pow_eq]
  push_cast
  field_simp
  ring

/-! ## Its range -/

/-- Digits and exponent whose text can be read: neither is too long, and the number is in range. -/
structure Readable (significand : Nat) (exponent : Int) : Prop where
  positive : 0 < significand
  length : significand < 10 ^ 633
  low : -324 ≤ exponent
  high : exponent ≤ 309
  range : (significand : ℚ) * 10 ^ exponent ≤ almost ∨
    significand < 2 ^ 64 ∧ (ofDecimal? significand exponent).isSome = true

theorem mem_units {k : Int} (member : k ∈ units) : -324 ≤ k ∧ k ≤ 309 := by
  simp only [units, List.mem_map, List.mem_range] at member
  obtain ⟨i, small, rfl⟩ := member
  omega

/-- The two greatest numbers, for which the error bound is too weak. -/
theorem shortest_top : ∀ significand ∈ [2 ^ 53 - 1, 2 ^ 53 - 2], ∀ negative : Bool,
    0 < (shortest ⟨negative, significand, 971⟩).1 ∧
      (shortest ⟨negative, significand, 971⟩).1 < 2 ^ 64 ∧
      -324 ≤ (shortest ⟨negative, significand, 971⟩).2 ∧
      (shortest ⟨negative, significand, 971⟩).2 ≤ 309 ∧
      (ofDecimal? (shortest ⟨negative, significand, 971⟩).1
        (shortest ⟨negative, significand, 971⟩).2).isSome = true := by
  decide +kernel

theorem upper_le_almost {x : Binary64} (valid : x.Valid)
    (inner : x.exponent < 971 ∨ x.significand + 3 ≤ 2 ^ 53) :
    ((x.significand : ℚ) + 1 / 2) * 2 ^ x.exponent ≤ almost := by
  unfold almost
  have unit : (0 : ℚ) < 2 ^ x.exponent := zpow_pos two_pos _
  have last : (0 : ℚ) < 2 ^ (971 : Int) := zpow_pos two_pos _
  by_cases small : x.exponent < 971
  · have bits : (x.significand : ℚ) + 1 ≤ 2 ^ 53 := by exact_mod_cast valid.significand
    have grows : (2 : ℚ) ^ x.exponent * 2 ≤ 2 ^ (971 : Int) := by
      rw [← zpow_add_one₀ two_ne_zero]
      exact zpow_le_zpow_right₀ one_le_two (by omega)
    generalize (2 : ℚ) ^ (971 : Int) = u at grows last ⊢
    calc ((x.significand : ℚ) + 1 / 2) * 2 ^ x.exponent
        ≤ 2 ^ 53 * 2 ^ x.exponent := mul_le_mul_of_nonneg_right (by linarith) unit.le
      _ ≤ (2 ^ 53 - 5 / 2) * u := by linarith
  · have bits : (x.significand : ℚ) + 3 ≤ 2 ^ 53 := by exact_mod_cast inner.resolve_left small
    rw [show x.exponent = 971 from le_antisymm valid.exponent (by omega)]
    exact mul_le_mul_of_nonneg_right (by linarith) last.le

theorem shortest_eq (x : Binary64) : shortest x =
    (units.findSome? fun k => (((Rounding.of x).inUnits k).whole?).map (·, k)).getD (0, 0) := rfl

/-- At least one of the units is small enough for that many digits. -/
theorem length_of_range {s : Nat} {k : Int} (low : -324 ≤ k) (range : (s : ℚ) * 10 ^ k ≤ almost) :
    s < 10 ^ 633 := by
  have power : (0 : ℚ) < 10 ^ k := zpow_pos (by norm_num) k
  have least : (10 : ℚ) ^ (-324 : Int) ≤ 10 ^ k := zpow_le_zpow_right₀ (by norm_num) low
  have shift : (10 : ℚ) ^ (633 : Int) * 10 ^ (-324 : Int) = 10 ^ 309 := by
    rw [← zpow_add₀ (by norm_num), ← zpow_natCast]
    rfl
  by_contra long
  have large : (10 : ℚ) ^ (633 : Int) ≤ s := by
    rw [show (633 : Int) = (633 : Nat) from rfl, zpow_natCast]
    exact_mod_cast not_lt.mp long
  have product : (10 : ℚ) ^ (633 : Int) * 10 ^ (-324 : Int) ≤ s * 10 ^ k :=
    mul_le_mul large least (zpow_pos (by norm_num) _).le (Nat.cast_nonneg _)
  rw [shift] at product
  exact absurd Binary64.almost_lt_pow (not_lt.mpr (product.trans range))

theorem shortest_readable {x : Binary64} (valid : x.Valid) (nonzero : 0 < x.significand) :
    shortest x = (0, 0) ∨ Readable (shortest x).1 (shortest x).2 := by
  by_cases inner : x.exponent < 971 ∨ x.significand + 3 ≤ 2 ^ 53
  · rw [shortest_eq]
    cases found : units.findSome? fun k => (((Rounding.of x).inUnits k).whole?).map (·, k) with
    | none => exact .inl rfl
    | some printed =>
      obtain ⟨k, member, whole⟩ := List.exists_of_findSome?_eq_some found
      obtain ⟨n, chosen, rfl⟩ := Option.map_eq_some_iff.mp whole
      have holds := whole?_holds chosen
      have range : (n : ℚ) * 10 ^ k ≤ almost := by
        have bound := holds_le (den_positive x) holds
        rw [upper_eq] at bound
        exact bound.trans (upper_le_almost valid inner)
      have positive : 0 < n := by
        rcases Nat.eq_zero_or_pos n with none | positive
        · subst none
          rw [not_holds_zero k (lower_positive nonzero)] at holds
          cases holds
        · exact positive
      obtain ⟨low, high⟩ := mem_units member
      exact .inr ⟨positive, length_of_range low range, low, high, .inl range⟩
  · rw [not_or] at inner
    have last : x.exponent = 971 := le_antisymm valid.exponent (not_lt.mp inner.1)
    have top : x = ⟨x.negative, x.significand, 971⟩ := by rw [← last]
    have listed : x.significand ∈ [2 ^ 53 - 1, 2 ^ 53 - 2] := by
      have bits := valid.significand
      simp only [List.mem_cons, List.not_mem_nil, or_false]
      omega
    obtain ⟨positive, fits, low, high, read⟩ := shortest_top x.significand listed x.negative
    rw [← top] at positive fits low high read
    have length : (shortest x).1 < 10 ^ 633 :=
      calc (shortest x).1 < 2 ^ 64 := fits
        _ ≤ 10 ^ 20 := by norm_num
        _ ≤ 10 ^ 633 := pow_le_pow_right₀ (by norm_num) (by norm_num)
    exact .inr ⟨positive, length, low, high, .inr ⟨fits, read⟩⟩

/-! ## Reading it -/

/-- The text is read as a decimal number, of either sign and whatever comes after it. -/
def ReadsAs (cs : List Char) (significand : Nat) (exponent : Int) : Prop :=
  ∀ negative rest, NumberEnds rest → readNumber negative (cs ++ rest) =
    (scaledNumber negative significand exponent rest).map fun number => (number, rest)

/-- A text that is read as a number in range. -/
def ReadsInRange (cs : List Char) : Prop :=
  ∃ significand exponent, ReadsAs cs significand exponent ∧
    (ofDecimal? significand exponent).isSome = true

theorem fraction_inRange {s : Nat} {e : Int} (fits : s < 2 ^ 64) (fraction : e ≤ 0) :
    (ofDecimal? s e).isSome = true := by
  have below : (s : ℚ) < 2 ^ 64 := by exact_mod_cast fits
  have scale : (10 : ℚ) ^ e ≤ 1 := zpow_le_one_of_nonpos₀ (by norm_num) fraction
  refine Binary64.ofDecimal?_isSome fits ?_
  have shrunk : (s : ℚ) * 10 ^ e ≤ s := mul_le_of_le_one_right (Nat.cast_nonneg s) scale
  linarith [Binary64.one_lt_almost]

/-- A number without an exponent is read if not too much stands before the point. -/
theorem pointed_reads {ds fs : List Char} (whole : WholePart ds) (short : ds.length ≤ 16)
    (nonempty : fs ≠ []) (digit : ∀ c ∈ fs, Text.isDigit c = true) :
    ReadsInRange (ds ++ '.' :: fs) := by
  have small : Nat.ofDigitChars 10 ds 0 < significandBound := by
    calc Nat.ofDigitChars 10 ds 0 < (0 + 1) * 10 ^ ds.length := ofDigitChars_lt whole.digit 0
      _ ≤ (0 + 1) * 10 ^ 16 := Nat.mul_le_mul_left _ (Nat.pow_le_pow_right (by decide) short)
      _ < significandBound := by decide
  have absorbed := absorb_of_lt small
  obtain ⟨_, _, bound⟩ := absorb_le fs (Nat.ofDigitChars 10 ds 0)
  generalize Nat.ofDigitChars 10 ds 0 = n at small absorbed bound
  refine ⟨(absorb n fs).1, 0 - (fs.length - (absorb n fs).2 : Nat), ?_,
    fraction_inRange (bound small) (by omega)⟩
  intro negative rest ends
  have point : Text.DigitsEnd ('.' :: (fs ++ rest)) := fun c head => by cases head; rfl
  rw [List.append_assoc, List.cons_append, readNumber_wholePart negative whole point, absorbed]
  change readFraction negative n 0 (fs ++ rest) = _
  rw [readFraction_digits negative n 0 nonempty digit ends.digitsEnd, readScale_end _ _ _ ends]

theorem exponentText_eq (power : Int) :
    exponentText layout power =
      'e' :: exponentSign (decide (power < 0)) :: Text.digits power.natAbs := by
  unfold exponentText exponentSign
  by_cases down : power < 0 <;> simp [down, layout]

theorem readScale_exponent (negative : Bool) (significand : Nat) (exponent : Int) {power : Int}
    (fits : power.natAbs < exponentBound) {rest : List Char} (ends : NumberEnds rest) :
    readScale negative significand exponent (exponentText layout power ++ rest) =
      (scaledNumber negative significand (exponent + power) rest).map
        fun number => (number, rest) := by
  have signed : (if decide (power < 0) = true then -(power.natAbs : Int) else power.natAbs) =
      power := by
    simp only [decide_eq_true_eq]
    split <;> omega
  rw [exponentText_eq]
  change readExponent negative significand exponent
    (exponentSign (decide (power < 0)) :: (Text.digits power.natAbs ++ rest)) = _
  rw [readExponent_digits negative significand exponent _ fits ends.digitsEnd, signed]

theorem digitsEnd_exponent (power : Int) (rest : List Char) :
    Text.DigitsEnd (exponentText layout power ++ rest) := by
  rw [exponentText_eq]
  intro c head
  cases head
  rfl

theorem readTail_exponent (negative : Bool) (significand : Nat) {power : Int}
    (fits : power.natAbs < exponentBound) {rest : List Char} (ends : NumberEnds rest) :
    readTail negative significand 0 (exponentText layout power ++ rest) =
      (scaledNumber negative significand power rest).map fun number => (number, rest) := by
  have scale := readScale_exponent negative significand 0 fits ends
  rw [zero_add] at scale
  rw [← scale, exponentText_eq]
  simp [readTail]

/-- Cutting off digits that no longer fit keeps a number in range. -/
theorem absorbed_inRange {s t u : Nat} {k : Int} (readable : Readable s k) (fits : t < 2 ^ 64)
    (below : t * 10 ^ u ≤ s) (exact : s < 2 ^ 64 → t = s ∧ u = 0) :
    (ofDecimal? t (k + u)).isSome = true := by
  rcases readable.range with range | ⟨small, read⟩
  · refine Binary64.ofDecimal?_isSome fits ?_
    have cast : (t : ℚ) * 10 ^ u ≤ s := by exact_mod_cast below
    have power : (0 : ℚ) < 10 ^ k := zpow_pos (by norm_num) k
    calc (t : ℚ) * 10 ^ (k + u) = t * 10 ^ u * 10 ^ k := by
          rw [zpow_add₀ (by norm_num), zpow_natCast]
          ring
      _ ≤ s * 10 ^ k := mul_le_mul_of_nonneg_right cast power.le
      _ ≤ almost := range
  · obtain ⟨rfl, rfl⟩ := exact small
    rwa [Nat.cast_zero, add_zero]

theorem length_digits {s n : Nat} (positive : 0 < n) (bound : s < 10 ^ n) :
    (Text.digits s).length ≤ n :=
  (Nat.length_toDigits_le_iff (by decide) positive).mpr bound

theorem absorb_digit {c : Char} (digit : Text.isDigit c = true) :
    absorb 0 [c] = (Text.digitValue c, 0) ∧ Text.digitValue c < significandBound := by
  have small : Text.digitValue c < significandBound :=
    lt_trans (Text.digitValue_lt digit) (by decide)
  exact ⟨by simp [absorb, small], small⟩

/-- One digit and an exponent. -/
theorem digit_readsAs {c : Char} (digit : Text.isDigit c = true) {power : Int}
    (bounded : power.natAbs < exponentBound) :
    ReadsAs (c :: exponentText layout power) (Text.digitValue c) power := by
  intro negative rest ends
  have whole : WholePart [c] := ⟨by simp, by simp [digit], fun zero => by simp_all⟩
  have text : c :: exponentText layout power ++ rest = [c] ++ (exponentText layout power ++ rest) :=
    rfl
  rw [text, readNumber_wholePart negative whole (digitsEnd_exponent _ rest), (absorb_digit digit).1,
    readTail_exponent negative _ bounded ends]

/-- One digit, a fraction and an exponent; digits of the fraction that no longer fit are left
out, and the others move the point. -/
theorem fraction_readsAs {c : Char} (digit : Text.isDigit c = true) {fs : List Char}
    (nonempty : fs ≠ []) (others : ∀ d ∈ fs, Text.isDigit d = true) {power : Int}
    (bounded : power.natAbs < exponentBound) :
    ReadsAs (c :: '.' :: (fs ++ exponentText layout power)) (absorb (Text.digitValue c) fs).1
      (power - fs.length + (absorb (Text.digitValue c) fs).2) := by
  intro negative rest ends
  have whole : WholePart [c] := ⟨by simp, by simp [digit], fun zero => by simp_all⟩
  have point : Text.DigitsEnd ('.' :: (fs ++ (exponentText layout power ++ rest))) :=
    fun c head => by cases head; rfl
  have text : c :: '.' :: (fs ++ exponentText layout power) ++ rest =
      [c] ++ '.' :: (fs ++ (exponentText layout power ++ rest)) := by
    simp
  have moved : 0 - (fs.length - (absorb (Text.digitValue c) fs).2 : Nat) + power =
      power - fs.length + (absorb (Text.digitValue c) fs).2 := by
    have count := (absorb_le fs (Text.digitValue c)).1
    omega
  rw [text, readNumber_wholePart negative whole point, (absorb_digit digit).1]
  change readFraction negative _ 0 _ = _
  rw [readFraction_digits negative _ _ nonempty others (digitsEnd_exponent _ rest),
    readScale_exponent _ _ _ bounded ends, moved]

/-- A number with an exponent: one digit stands before the point, if there is one. -/
theorem marked_reads {s : Nat} {k : Int} (readable : Readable s k) :
    ReadsInRange ((Text.digits s).take 1 ++
      (if (Text.digits s).length > 1 then '.' :: (Text.digits s).drop 1 else []) ++
      exponentText layout (k + (Text.digits s).length - 1)) := by
  have digit : ∀ c ∈ Text.digits s, Text.isDigit c = true := fun c => Text.isDigit_of_mem_digits
  have value : Nat.ofDigitChars 10 (Text.digits s) 0 = s := Nat.ofDigitChars_ten_toDigits
  have bounded : (k + (Text.digits s).length - 1).natAbs < exponentBound := by
    have long := length_digits (by decide) readable.length
    have low := readable.low
    have high := readable.high
    rw [exponentBound_eq]
    omega
  have nonempty := Text.digits_ne_nil s
  generalize Text.digits s = ds at *
  cases ds with
  | nil => exact absurd rfl nonempty
  | cons c fs =>
    have first : Text.isDigit c = true := digit c (by simp)
    have small := (absorb_digit first).2
    have total : Nat.ofDigitChars 10 fs (Text.digitValue c) = s := by
      rw [← value, Nat.ofDigitChars_cons, Nat.mul_zero, Nat.zero_add]
      rfl
    cases fs with
    | nil =>
      rw [Nat.ofDigitChars_nil] at total
      subst total
      have exact := absorbed_inRange readable small (u := 0) (by simp) fun _ => ⟨rfl, rfl⟩
      have power : k + ([c].length : Int) - 1 = k + (0 : Nat) := by simp
      rw [power] at bounded ⊢
      exact ⟨_, _, digit_readsAs first bounded, exact⟩
    | cons d fs =>
      have others : ∀ e ∈ d :: fs, Text.isDigit e = true :=
        fun e member => digit e (by simp [member])
      obtain ⟨_, below, bound⟩ := absorb_le (d :: fs) (Text.digitValue c)
      refine ⟨_, _, fraction_readsAs first (by simp) others bounded, ?_⟩
      have power : k + ((c :: d :: fs).length : Int) - 1 - (d :: fs).length = k := by
        simp only [List.length_cons]
        omega
      rw [power]
      refine absorbed_inRange readable (bound small) (by rwa [total] at below) fun fits => ?_
      rw [absorb_of_lt (by rwa [total]), total]
      exact ⟨rfl, rfl⟩

/-- What begins with the digits of a number other than zero has no leading zero. -/
theorem wholePart_of_head {s : Nat} (positive : 0 < s) {ds : List Char}
    (head : ds.head? = (Text.digits s).head?) (digit : ∀ c ∈ ds, Text.isDigit c = true) :
    WholePart ds where
  nonempty empty := by
    subst empty
    exact Text.digits_ne_nil s (List.head?_eq_none_iff.mp head.symm)
  digit := digit
  leading zero := absurd (head.symm.trans zero) (Text.head_digits positive)

theorem zeros_digit {n : Nat} {c : Char} (member : c ∈ List.replicate n '0') :
    Text.isDigit c = true := by
  rw [List.eq_of_mem_replicate member]
  rfl

theorem setOut_reads {s : Nat} {k : Int} (readable : Readable s k) :
    ReadsInRange (setOut layout s k) := by
  have digit : ∀ c ∈ Text.digits s, Text.isDigit c = true := fun c => Text.isDigit_of_mem_digits
  have nonempty := List.length_pos_of_ne_nil (Text.digits_ne_nil s)
  unfold setOut
  dsimp only
  split
  next plain =>
    obtain ⟨least, most⟩ : -5 ≤ k + (Text.digits s).length - 1 ∧
      k + (Text.digits s).length - 1 ≤ 15 := plain
    split
    next whole =>
      rw [show (['.', '0'] : List Char) = '.' :: ['0'] from rfl]
      apply pointed_reads
      · refine wholePart_of_head readable.positive ?_ fun c member => ?_
        · exact List.head?_append_of_ne_nil _ (Text.digits_ne_nil s)
        · rcases List.mem_append.mp member with inside | zero
          · exact digit c inside
          · exact zeros_digit zero
      · simp only [List.length_append, List.length_replicate]
        omega
      · simp
      · simp [Text.isDigit]
    next fraction =>
    split
    next above =>
      apply pointed_reads
      · refine wholePart_of_head readable.positive ?_ fun c member => ?_
        · rw [List.head?_take, if_neg (by omega)]
        · exact digit c (List.mem_of_mem_take member)
      · rw [List.length_take]
        omega
      · rw [← List.length_pos_iff, List.length_drop]
        omega
      · exact fun c member => digit c (List.mem_of_mem_drop member)
    next below =>
      change ReadsInRange (['0'] ++ '.' :: (List.replicate _ '0' ++ Text.digits s))
      apply pointed_reads
      · exact ⟨by simp, by simp [Text.isDigit], fun _ => rfl⟩
      · simp
      · simp [Text.digits_ne_nil]
      · intro c member
        rcases List.mem_append.mp member with zero | inside
        · exact zeros_digit zero
        · exact digit c inside
  next => exact marked_reads readable

/-- The digits of a number, its sign aside. -/
def magnitudeText (x : Binary64) : List Char :=
  if x.isZero then ['0', '.', '0'] else setOut layout (shortest x).1 (shortest x).2

theorem print_eq (x : Binary64) :
    print x = if x.negative then '-' :: magnitudeText x else magnitudeText x := by
  unfold print magnitudeText
  generalize shortest x = printed
  rfl

theorem magnitudeText_reads {x : Binary64} (valid : x.Valid) : ReadsInRange (magnitudeText x) := by
  have zero : ReadsInRange (['0'] ++ '.' :: ['0']) :=
    pointed_reads ⟨by simp, by simp [Text.isDigit], fun _ => rfl⟩ (by simp) (by simp)
      (by simp [Text.isDigit])
  unfold magnitudeText
  split
  next => exact zero
  next nonzero =>
    have positive : 0 < x.significand := by
      unfold Binary64.isZero at nonzero
      rw [beq_iff_eq] at nonzero
      omega
    rcases shortest_readable valid positive with missing | readable
    · rw [missing]
      exact zero
    · exact setOut_reads readable

/-- The text is read to its end, as a number that does not depend on what comes after it. -/
theorem magnitudeText_read {x : Binary64} (valid : x.Valid) (negative : Bool) :
    ∃ y : Binary64, y.Valid ∧ ∀ rest, NumberEnds rest →
      readNumber negative (magnitudeText x ++ rest) = .ok (.float y, rest) := by
  obtain ⟨s, k, reads, inRange⟩ := magnitudeText_reads valid
  obtain ⟨y, found⟩ := Option.isSome_iff_exists.mp inRange
  refine ⟨{ y with negative }, (Binary64.ofDecimal?_valid found).signed negative,
    fun rest ends => ?_⟩
  rw [reads negative rest ends, scaledNumber, found]
  rfl

/-! ## Its characters -/

theorem digits_printable (n : Nat) : Printable (Text.digits n) := by
  intro c member
  have digit := Text.isDigit_of_mem_digits member
  simp only [Text.isDigit, Bool.and_eq_true, decide_eq_true_eq] at digit
  exact Nat.le_trans (by decide) (show '0'.toNat ≤ c.toNat from digit.1)

theorem zeros_printable (n : Nat) : Printable (List.replicate n '0') := by
  intro c member
  rw [List.eq_of_mem_replicate member]
  decide

theorem setOut_printable (s : Nat) (k : Int) : Printable (setOut layout s k) := by
  have front := fun n => (digits_printable s).of_subset (List.take_subset n _)
  have back := fun n => (digits_printable s).of_subset (List.drop_subset n _)
  unfold setOut
  dsimp only
  split
  · split
    · simp [digits_printable, zeros_printable]
    · split
      · simp [front, back]
      · simp [digits_printable, zeros_printable]
  · have marked (power : Int) : Printable (exponentText layout power) := by
      rw [exponentText_eq, exponentSign]
      split <;> simp [digits_printable]
    split
    · rw [printable_append, printable_append, printable_cons]
      exact ⟨⟨front 1, by decide, back 1⟩, marked _⟩
    · rw [List.append_nil, printable_append]
      exact ⟨front 1, marked _⟩

theorem print_printable (x : Binary64) : Printable (print x) := by
  have text : Printable (magnitudeText x) := by
    unfold magnitudeText
    split
    · simp
    · exact setOut_printable _ _
  rw [print_eq]
  split
  · simp [text]
  · exact text

end ServerForge.Decimal
