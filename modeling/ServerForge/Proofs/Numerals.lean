import Mathlib.Algebra.Group.Nat.Defs
import ServerForge.Json.Reader

/-! Numerals and the numbers read for them. Main statements: a whole number within 64 bits is read
as itself, and a number with a fraction or an exponent is read as its digits say. -/
namespace ServerForge.Text

theorem isDigit_of_mem_digits {c : Char} {n : Nat} (member : c ∈ digits n) : isDigit c = true := by
  have digit := Nat.isDigit_of_mem_toDigits (by decide) (by decide) member
  simp only [Char.isDigit, Bool.and_eq_true, decide_eq_true_eq] at digit
  simp only [isDigit, Bool.and_eq_true, decide_eq_true_eq]
  exact ⟨digit.1, digit.2⟩

theorem digitValue_lt {c : Char} (digit : isDigit c = true) : digitValue c < 10 := by
  simp only [isDigit, Bool.and_eq_true, decide_eq_true_eq] at digit
  have upper : c.toNat ≤ '9'.toNat := digit.2
  unfold digitValue
  have : '9'.toNat = '0'.toNat + 9 := rfl
  omega

theorem digits_ne_nil (n : Nat) : digits n ≠ [] := Nat.toDigits_ne_nil

/-- A number other than zero has no leading zero. -/
theorem head_digits {n : Nat} (positive : 0 < n) : (digits n).head? ≠ some '0' := by
  induction n using Nat.strongRecOn with
  | _ n ih =>
    unfold digits
    by_cases small : n < 10
    · rw [Nat.toDigits_of_lt_base small]
      have every : ∀ m < 10, 0 < m → [Nat.digitChar m].head? ≠ some '0' := by decide
      exact every n small positive
    · have leading := ih (n / 10) (by omega) (by omega)
      rw [Nat.toDigits_of_base_le (by decide) (by omega)]
      cases front : Nat.toDigits 10 (n / 10) with
      | nil => exact absurd front Nat.toDigits_ne_nil
      | cons c cs =>
        rw [digits, front] at leading
        exact leading

/-- A text that does not go on with a digit. -/
def DigitsEnd (rest : List Char) : Prop := ∀ c ∈ rest.head?, isDigit c = false

theorem takeWhile_digits {ds rest : List Char} (digits : ∀ c ∈ ds, isDigit c = true)
    (ends : DigitsEnd rest) : (ds ++ rest).takeWhile isDigit = ds := by
  rw [List.takeWhile_append_of_pos digits]
  cases rest with
  | nil => simp
  | cons c rest => simp [ends c rfl]

theorem dropWhile_digits {ds rest : List Char} (digits : ∀ c ∈ ds, isDigit c = true)
    (ends : DigitsEnd rest) : (ds ++ rest).dropWhile isDigit = rest := by
  rw [List.dropWhile_append_of_pos digits]
  cases rest with
  | nil => rfl
  | cons c rest => simp [ends c rfl]

end ServerForge.Text

namespace ServerForge.Json

open Text (isDigit digitValue digits DigitsEnd)

/-! ## Taking digits into a significand -/

theorem significandBound_eq : significandBound = 2 ^ 64 := rfl

theorem exponentBound_eq : exponentBound = 2 ^ 31 := rfl

theorem le_ofDigitChars (cs : List Char) (n : Nat) :
    n * 10 ^ cs.length ≤ Nat.ofDigitChars 10 cs n := by
  induction cs generalizing n with
  | nil => simp
  | cons c cs ih =>
    rw [Nat.ofDigitChars_cons, List.length_cons, Nat.pow_succ']
    refine Nat.le_trans ?_ (ih _)
    rw [← Nat.mul_assoc, Nat.mul_comm n]
    exact Nat.mul_le_mul_right _ (by omega)

theorem self_le_ofDigitChars (cs : List Char) (n : Nat) : n ≤ Nat.ofDigitChars 10 cs n :=
  Nat.le_trans (Nat.le_mul_of_pos_right n (Nat.pow_pos (by decide))) (le_ofDigitChars cs n)

theorem ofDigitChars_lt {ds : List Char} (digit : ∀ c ∈ ds, isDigit c = true) (n : Nat) :
    Nat.ofDigitChars 10 ds n < (n + 1) * 10 ^ ds.length := by
  induction ds generalizing n with
  | nil => simp
  | cons c ds ih =>
    have small : c.toNat - '0'.toNat < 10 := Text.digitValue_lt (digit c (by simp))
    rw [Nat.ofDigitChars_cons, List.length_cons, Nat.pow_succ', ← Nat.mul_assoc]
    refine Nat.lt_of_lt_of_le (ih (fun d member => digit d (by simp [member])) _) ?_
    exact Nat.mul_le_mul_right _ (by omega)

theorem absorb_of_lt {cs : List Char} {n : Nat}
    (small : Nat.ofDigitChars 10 cs n < significandBound) :
    absorb n cs = (Nat.ofDigitChars 10 cs n, 0) := by
  induction cs generalizing n with
  | nil => simp [absorb]
  | cons c cs ih =>
    rw [Nat.ofDigitChars_cons] at small ⊢
    have next : n * 10 + digitValue c = 10 * n + (c.toNat - '0'.toNat) := by
      rw [Nat.mul_comm, digitValue]
    have fits : n * 10 + digitValue c < significandBound := by
      rw [next]
      exact Nat.lt_of_le_of_lt (self_le_ofDigitChars cs _) small
    rw [absorb, if_pos fits, next, ih small]

/-- Digits that no longer fit only make the significand smaller. -/
theorem absorb_le (cs : List Char) (n : Nat) :
    (absorb n cs).2 ≤ cs.length ∧
      (absorb n cs).1 * 10 ^ (absorb n cs).2 ≤ Nat.ofDigitChars 10 cs n ∧
      (n < significandBound → (absorb n cs).1 < significandBound) := by
  induction cs generalizing n with
  | nil => simp [absorb]
  | cons c cs ih =>
    have next : n * 10 + digitValue c = 10 * n + (c.toNat - '0'.toNat) := by
      rw [Nat.mul_comm, digitValue]
    unfold absorb
    dsimp only
    split
    next fits =>
      obtain ⟨count, value, bound⟩ := ih (n * 10 + digitValue c)
      refine ⟨Nat.le_succ_of_le count, ?_, fun _ => bound fits⟩
      rwa [Nat.ofDigitChars_cons, ← next]
    next full => exact ⟨Nat.le_refl _, le_ofDigitChars (c :: cs) n, id⟩

theorem absorb_digits {n : Nat} (fits : n < significandBound) : absorb 0 (digits n) = (n, 0) := by
  have value : Nat.ofDigitChars 10 (digits n) 0 = n := Nat.ofDigitChars_ten_toDigits
  rw [absorb_of_lt (by rwa [value]), value]

/-! ## The parts of a number -/

/-- The digits before a decimal point: at least one, and no leading zero. -/
structure WholePart (ds : List Char) : Prop where
  nonempty : ds ≠ []
  digit : ∀ c ∈ ds, isDigit c = true
  leading : ds.head? = some '0' → ds = ['0']

theorem wholePart_digits (n : Nat) : WholePart (digits n) where
  nonempty := Text.digits_ne_nil n
  digit _ member := Text.isDigit_of_mem_digits member
  leading zero := by
    cases Nat.eq_zero_or_pos n with
    | inl none => subst none; rfl
    | inr positive => exact absurd zero (Text.head_digits positive)

/-- What follows the digits before the point, or in place of one. -/
def readTail (negative : Bool) (significand unused : Nat) : Reader Number
  | '.' :: rest => readFraction negative significand unused rest
  | rest =>
    if unused = 0 ∧ rest.head? ≠ some 'e' ∧ rest.head? ≠ some 'E' then do
      return (← wholeNumber negative significand rest, rest)
    else readScale negative significand unused rest

/-- The reader takes in all digits before the point. -/
theorem readNumber_wholePart (negative : Bool) {ds rest : List Char} (whole : WholePart ds)
    (ends : DigitsEnd rest) :
    readNumber negative (ds ++ rest) =
      readTail negative (absorb 0 ds).1 (absorb 0 ds).2 rest := by
  cases ds with
  | nil => exact absurd rfl whole.nonempty
  | cons c cs =>
    have digit := whole.digit c (by simp)
    have others : ∀ d ∈ cs, isDigit d = true := fun d member => whole.digit d (by simp [member])
    have notDigit : (rest.head?.map isDigit).getD false = false := by
      cases rest with
      | nil => rfl
      | cons d rest => exact ends d rfl
    rw [List.cons_append, readNumber, digit]
    by_cases zero : c = '0'
    · subst zero
      obtain rfl : cs = [] := by simpa using whole.leading rfl
      simp only [Bool.not_true, Bool.false_eq_true, if_false, if_true, List.nil_append, notDigit,
        and_false]
      rfl
    · simp only [Bool.not_true, Bool.false_eq_true, if_false, zero, false_and,
        Text.takeWhile_digits others ends, Text.dropWhile_digits others ends]
      rfl

/-- A text that does not go on with anything that could belong to a number. -/
def NumberEnds (rest : List Char) : Prop :=
  ∀ c ∈ rest.head?, isDigit c = false ∧ c ≠ '.' ∧ c ≠ 'e' ∧ c ≠ 'E'

theorem NumberEnds.digitsEnd {rest : List Char} (ends : NumberEnds rest) : DigitsEnd rest :=
  fun c head => (ends c head).1

/-- A whole number that fits is read as far as its digits go. -/
theorem readNumber_digits (negative : Bool) {n : Nat} (fits : n < significandBound)
    {rest : List Char} (ends : NumberEnds rest) :
    readNumber negative (digits n ++ rest) =
      (wholeNumber negative n rest).map fun number => (number, rest) := by
  rw [readNumber_wholePart negative (wholePart_digits n) ends.digitsEnd, absorb_digits fits]
  unfold readTail
  split
  next tail => exact absurd rfl (ends '.' rfl).2.1
  next =>
    have plain : rest.head? ≠ some 'e' ∧ rest.head? ≠ some 'E' :=
      ⟨fun mark => (ends 'e' mark).2.2.1 rfl, fun mark => (ends 'E' mark).2.2.2 rfl⟩
    rw [if_pos ⟨rfl, plain⟩]
    cases wholeNumber negative n rest <;> rfl

theorem readScale_end (negative : Bool) (significand : Nat) (exponent : Int) {rest : List Char}
    (ends : NumberEnds rest) :
    readScale negative significand exponent rest =
      (scaledNumber negative significand exponent rest).map fun number => (number, rest) := by
  unfold readScale
  split
  next tail => exact absurd rfl (ends 'e' rfl).2.2.1
  next tail => exact absurd rfl (ends 'E' rfl).2.2.2
  next => cases scaledNumber negative significand exponent rest <;> rfl

/-- The reader takes in all digits after the point. -/
theorem readFraction_digits (negative : Bool) (significand : Nat) (exponent : Int)
    {fs rest : List Char} (nonempty : fs ≠ []) (digit : ∀ c ∈ fs, isDigit c = true)
    (ends : DigitsEnd rest) :
    readFraction negative significand exponent (fs ++ rest) =
      readScale negative (absorb significand fs).1
        (exponent - (fs.length - (absorb significand fs).2 : Nat)) rest := by
  unfold readFraction
  simp only [Text.takeWhile_digits digit ends, Text.dropWhile_digits digit ends]
  cases fs with
  | nil => exact absurd rfl nonempty
  | cons c fs => rfl

theorem absorbExponent_of_lt {cs : List Char} {n : Nat}
    (small : Nat.ofDigitChars 10 cs n < exponentBound) :
    absorbExponent n cs = .ok (Nat.ofDigitChars 10 cs n) := by
  induction cs generalizing n with
  | nil => rfl
  | cons c cs ih =>
    rw [Nat.ofDigitChars_cons] at small ⊢
    have next : n * 10 + digitValue c = 10 * n + (c.toNat - '0'.toNat) := by
      rw [Nat.mul_comm, digitValue]
    have fits : n * 10 + digitValue c < exponentBound := by
      rw [next]
      exact Nat.lt_of_le_of_lt (self_le_ofDigitChars cs _) small
    unfold absorbExponent
    dsimp only
    rw [if_pos fits, next, ih small]

def exponentSign (down : Bool) : Char := if down then '-' else '+'

/-- The exponent moves the point up or down by as many places as its digits say. -/
theorem readExponent_digits (negative : Bool) (significand : Nat) (exponent : Int) (down : Bool)
    {places : Nat} (fits : places < exponentBound) {rest : List Char} (ends : DigitsEnd rest) :
    readExponent negative significand exponent (exponentSign down :: (digits places ++ rest)) =
      (scaledNumber negative significand
        (exponent + if down then -(places : Int) else places) rest).map
          fun number => (number, rest) := by
  have digit : ∀ c ∈ digits places, isDigit c = true := fun c => Text.isDigit_of_mem_digits
  have value : Nat.ofDigitChars 10 (digits places) 0 = places := Nat.ofDigitChars_ten_toDigits
  have absorbed : absorbExponent 0 (digits places) = .ok places := by
    rw [absorbExponent_of_lt (by rwa [value]), value]
  have taken := Text.takeWhile_digits digit ends
  have left := Text.dropWhile_digits digit ends
  have nonempty := Text.digits_ne_nil places
  generalize digits places = ds at *
  cases ds with
  | nil => exact absurd rfl nonempty
  | cons d ds =>
    cases down with
    | true =>
      simp only [exponentSign, if_true, readExponent, taken, left, absorbed]
      cases scaledNumber negative significand (exponent + -(places : Int)) rest <;> rfl
    | false =>
      simp only [exponentSign, Bool.false_eq_true, if_false, readExponent, taken, left, absorbed]
      cases scaledNumber negative significand (exponent + (places : Int)) rest <;> rfl

end ServerForge.Json
