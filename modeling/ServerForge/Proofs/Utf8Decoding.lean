import Mathlib.Tactic.SplitIfs
import ServerForge.Text.Utf8

/-! Which bytes are UTF-8, and the form of which characters. Main statement: bytes are decoded to
the characters whose form they are, and fail to be decoded if they are the form of none. -/
namespace ServerForge.Text.Utf8

/-- The UTF-8 form of characters. -/
def encode (cs : List Char) : List UInt8 := cs.flatMap String.utf8EncodeChar

theorem encode_concat (cs : List Char) (c : Char) :
    encode (cs ++ [c]) = encode cs ++ String.utf8EncodeChar c := by
  rw [encode, List.flatMap_append, List.flatMap_singleton, encode]

/-! ## Bytes as numbers -/

theorem within_iff {least b most : UInt8} :
    least ≤ b ∧ b ≤ most ↔ least.toNat ≤ b.toNat ∧ b.toNat ≤ most.toNat := by
  rw [UInt8.le_iff_toNat_le, UInt8.le_iff_toNat_le]

theorem isContinuation_iff {b : UInt8} :
    isContinuation b = true ↔ 128 ≤ b.toNat ∧ b.toNat ≤ 191 := by
  rw [isContinuation, Bool.and_eq_true, decide_eq_true_eq, decide_eq_true_eq]
  exact within_iff

/-- A second byte is a continuation byte, and after four of the first bytes its range is narrower:
what is left out has a shorter form, is half of a surrogate pair or is no character. -/
theorem mayFollow_iff {a b : UInt8} :
    mayFollow a b = true ↔ isContinuation b = true ∧ (a.toNat = 224 → 160 ≤ b.toNat) ∧
      (a.toNat = 237 → b.toNat ≤ 159) ∧ (a.toNat = 240 → 144 ≤ b.toNat) ∧
      (a.toNat = 244 → b.toNat ≤ 143) := by
  rw [isContinuation_iff]
  simp only [mayFollow, isContinuation, ← UInt8.toNat_inj, UInt8.le_iff_toNat_le]
  split_ifs <;> simp at * <;> omega

theorem low_lt (b : UInt8) : low b < 64 := Nat.mod_lt _ (by decide)

theorem low_continuation {b : UInt8} (continuation : isContinuation b = true) :
    low b + 128 = b.toNat := by
  obtain ⟨least, most⟩ := isContinuation_iff.mp continuation
  unfold low
  omega

theorem ofNat_low {b : UInt8} (continuation : isContinuation b = true) :
    UInt8.ofNat (low b + 128) = b := by
  rw [low_continuation continuation, UInt8.ofNat_toNat]

theorem low_ofNat (n : Nat) : low (UInt8.ofNat (n % 64 + 128)) = n % 64 := by
  rw [low, UInt8.toNat_ofNat_of_lt' (show _ < 256 by omega)]
  omega

theorem isContinuation_ofNat (n : Nat) : isContinuation (UInt8.ofNat (n % 64 + 128)) = true := by
  rw [isContinuation_iff, UInt8.toNat_ofNat_of_lt' (show _ < 256 by omega)]
  omega

/-! ## The bytes of one character -/

/-- The bytes of one character, and its number. -/
inductive Sequence : List UInt8 → Nat → Prop where
  | one {a : UInt8} (first : a < 0x80) : Sequence [a] a.toNat
  | two {a b : UInt8} (first : 0xC2 ≤ a ∧ a ≤ 0xDF) (second : isContinuation b = true) :
    Sequence [a, b] (a.toNat % 32 * 64 + low b)
  | three {a b c : UInt8} (first : 0xE0 ≤ a ∧ a ≤ 0xEF) (second : mayFollow a b = true)
    (third : isContinuation c = true) :
    Sequence [a, b, c] ((a.toNat % 16 * 64 + low b) * 64 + low c)
  | four {a b c d : UInt8} (first : 0xF0 ≤ a ∧ a ≤ 0xF4) (second : mayFollow a b = true)
    (third : isContinuation c = true) (fourth : isContinuation d = true) :
    Sequence [a, b, c, d] (((a.toNat % 8 * 64 + low b) * 64 + low c) * 64 + low d)

namespace Sequence

theorem ofNat_one {v : Nat} (most : v ≤ 127) : Sequence [UInt8.ofNat v] v := by
  have first : (UInt8.ofNat v).toNat = v := UInt8.toNat_ofNat_of_lt' (show v < 256 by omega)
  refine (congrArg (Sequence _) first.symm).mpr (.one ?_)
  rw [UInt8.lt_iff_toNat_lt, first]
  exact Nat.lt_succ_of_le most

theorem ofNat_two {v : Nat} (least : 128 ≤ v) (most : v ≤ 2047) :
    Sequence [UInt8.ofNat (v / 64 % 32 + 192), UInt8.ofNat (v % 64 + 128)] v := by
  have first : (UInt8.ofNat (v / 64 % 32 + 192)).toNat = v / 64 % 32 + 192 :=
    UInt8.toNat_ofNat_of_lt' (show _ < 256 by omega)
  refine (congrArg (Sequence _) ?_).mpr (.two (within_iff.mpr ?_) (isContinuation_ofNat v))
  · rw [first, low_ofNat]
    omega
  · rw [first]
    change 194 ≤ _ ∧ _ ≤ 223
    omega

theorem ofNat_three {v : Nat} (valid : v.isValidChar) (least : 2048 ≤ v) (most : v ≤ 65535) :
    Sequence [UInt8.ofNat (v / 4096 % 16 + 224), UInt8.ofNat (v / 64 % 64 + 128),
      UInt8.ofNat (v % 64 + 128)] v := by
  have first : (UInt8.ofNat (v / 4096 % 16 + 224)).toNat = v / 4096 % 16 + 224 :=
    UInt8.toNat_ofNat_of_lt' (show _ < 256 by omega)
  have second : (UInt8.ofNat (v / 64 % 64 + 128)).toNat = v / 64 % 64 + 128 :=
    UInt8.toNat_ofNat_of_lt' (show _ < 256 by omega)
  unfold Nat.isValidChar at valid
  refine (congrArg (Sequence _) ?_).mpr
    (.three (within_iff.mpr ?_) (mayFollow_iff.mpr ⟨isContinuation_ofNat _, ?_⟩)
      (isContinuation_ofNat v))
  · rw [first, low_ofNat, low_ofNat]
    omega
  · rw [first]
    change 224 ≤ _ ∧ _ ≤ 239
    omega
  · rw [first, second]
    omega

theorem ofNat_four {v : Nat} (least : 65536 ≤ v) (most : v < 1114112) :
    Sequence [UInt8.ofNat (v / 262144 % 8 + 240), UInt8.ofNat (v / 4096 % 64 + 128),
      UInt8.ofNat (v / 64 % 64 + 128), UInt8.ofNat (v % 64 + 128)] v := by
  have first : (UInt8.ofNat (v / 262144 % 8 + 240)).toNat = v / 262144 % 8 + 240 :=
    UInt8.toNat_ofNat_of_lt' (show _ < 256 by omega)
  have second : (UInt8.ofNat (v / 4096 % 64 + 128)).toNat = v / 4096 % 64 + 128 :=
    UInt8.toNat_ofNat_of_lt' (show _ < 256 by omega)
  refine (congrArg (Sequence _) ?_).mpr
    (.four (within_iff.mpr ?_) (mayFollow_iff.mpr ⟨isContinuation_ofNat _, ?_⟩)
      (isContinuation_ofNat _) (isContinuation_ofNat v))
  · rw [first, low_ofNat, low_ofNat, low_ofNat]
    omega
  · rw [first]
    change 240 ≤ _ ∧ _ ≤ 244
    omega
  · rw [first, second]
    omega

/-- The form of a character is one of its sequences. -/
theorem utf8EncodeChar (c : Char) : Sequence (String.utf8EncodeChar c) c.toNat := by
  have valid : c.val.toNat.isValidChar := c.valid
  change Sequence _ c.val.toNat
  rw [String.utf8EncodeChar.eq_def]
  generalize c.val.toNat = v at valid
  dsimp only
  split
  next most => exact ofNat_one most
  next least =>
    split
    next most => exact ofNat_two (by omega) most
    next least =>
      split
      next most => exact ofNat_three valid (by omega) most
      next least => exact ofNat_four (by omega) (by unfold Nat.isValidChar at valid; omega)

/-- The number of a sequence is a character's: no half of a surrogate pair, and none too large. -/
theorem isValidChar {bytes : List UInt8} {code : Nat} (sequence : Sequence bytes code) :
    code.isValidChar := by
  cases sequence with
  | one first =>
    rw [UInt8.lt_iff_toNat_lt] at first
    exact .inl (Nat.lt_trans first (by decide))
  | @two a b first second =>
    have small := low_lt b
    exact .inl (by omega)
  | @three a b c first second third =>
    obtain ⟨continuation, -, surrogate, -, -⟩ := mayFollow_iff.mp second
    have value := low_continuation continuation
    have small := low_lt b
    have smaller := low_lt c
    have range : 224 ≤ a.toNat ∧ a.toNat ≤ 239 := within_iff.mp first
    unfold Nat.isValidChar
    omega
  | @four a b c d first second third fourth =>
    obtain ⟨continuation, -, -, shortest, largest⟩ := mayFollow_iff.mp second
    have value := low_continuation continuation
    have range : 240 ≤ a.toNat ∧ a.toNat ≤ 244 := within_iff.mp first
    have small := low_lt b
    have smaller := low_lt c
    have smallest := low_lt d
    exact .inr (by omega)

/-- A sequence is the form of the character with its number. -/
theorem utf8EncodeChar_ofNat {bytes : List UInt8} {code : Nat} (sequence : Sequence bytes code) :
    String.utf8EncodeChar (Char.ofNat code) = bytes := by
  -- only a valid number is kept; any other would make the null character
  have number : (Char.ofNat code).val.toNat = code := by
    rw [Char.ofNat, dif_pos sequence.isValidChar]
    rfl
  rw [String.utf8EncodeChar.eq_def, number]
  dsimp only
  cases sequence with
  | @one a first =>
    rw [if_pos (Nat.le_of_lt_succ (UInt8.lt_iff_toNat_lt.mp first)), UInt8.ofNat_toNat]
  | @two a b first second =>
    have range : 194 ≤ a.toNat ∧ a.toNat ≤ 223 := within_iff.mp first
    have small := low_lt b
    generalize code : a.toNat % 32 * 64 + low b = v
    rw [if_neg (by omega), if_pos (by omega), show v / 64 % 32 + 192 = a.toNat by omega,
      show v % 64 = low b by omega, UInt8.ofNat_toNat, ofNat_low second]
  | @three a b c first second third =>
    obtain ⟨continuation, shortest, -⟩ := mayFollow_iff.mp second
    have value := low_continuation continuation
    have range : 224 ≤ a.toNat ∧ a.toNat ≤ 239 := within_iff.mp first
    have small := low_lt b
    have smaller := low_lt c
    generalize code : (a.toNat % 16 * 64 + low b) * 64 + low c = v
    rw [if_neg (by omega), if_neg (by omega), if_pos (by omega),
      show v / 4096 % 16 + 224 = a.toNat by omega, show v / 64 % 64 = low b by omega,
      show v % 64 = low c by omega, UInt8.ofNat_toNat, ofNat_low continuation, ofNat_low third]
  | @four a b c d first second third fourth =>
    obtain ⟨continuation, -, -, shortest, -⟩ := mayFollow_iff.mp second
    have value := low_continuation continuation
    have range : 240 ≤ a.toNat ∧ a.toNat ≤ 244 := within_iff.mp first
    have small := low_lt b
    have smaller := low_lt c
    have smallest := low_lt d
    generalize code : ((a.toNat % 8 * 64 + low b) * 64 + low c) * 64 + low d = v
    rw [if_neg (by omega), if_neg (by omega), if_neg (by omega),
      show v / 262144 % 8 + 240 = a.toNat by omega, show v / 4096 % 64 = low b by omega,
      show v / 64 % 64 = low c by omega, show v % 64 = low d by omega, UInt8.ofNat_toNat,
      ofNat_low continuation, ofNat_low third, ofNat_low fourth]

/-- A byte below 128 is a sequence of its own, and no other sequence has one. -/
theorem eq_singleton_or_high {bytes : List UInt8} {code : Nat} (sequence : Sequence bytes code) :
    (∃ b, bytes = [b]) ∨ ∀ b ∈ bytes, 0x80 ≤ b := by
  have high {b : UInt8} (continuation : isContinuation b = true) : 0x80 ≤ b := by
    rw [UInt8.le_iff_toNat_le]
    exact (isContinuation_iff.mp continuation).1
  cases sequence with
  | @one a first => exact .inl ⟨a, rfl⟩
  | two first second =>
    right
    rintro b (_ | ⟨_, _ | ⟨_, ⟨⟩⟩⟩)
    · exact UInt8.le_trans (by decide) first.1
    · exact high second
  | three first second third =>
    right
    rintro b (_ | ⟨_, _ | ⟨_, _ | ⟨_, ⟨⟩⟩⟩⟩)
    · exact UInt8.le_trans (by decide) first.1
    · exact high (mayFollow_iff.mp second).1
    · exact high third
  | four first second third fourth =>
    right
    rintro b (_ | ⟨_, _ | ⟨_, _ | ⟨_, _ | ⟨_, ⟨⟩⟩⟩⟩⟩)
    · exact UInt8.le_trans (by decide) first.1
    · exact high (mayFollow_iff.mp second).1
    · exact high third
    · exact high fourth

theorem eq_of_mem {bytes : List UInt8} {code : Nat} (sequence : Sequence bytes code) {b : UInt8}
    (inside : b ∈ bytes) (single : b < 0x80) : bytes = [b] := by
  obtain ⟨a, rfl⟩ | high := sequence.eq_singleton_or_high
  · rw [List.mem_singleton.mp inside]
  · exact absurd single (UInt8.not_lt.mpr (high b inside))

end Sequence

/-! ## Decoding, one character at a time -/

theorem decodeFrom_sequence {bytes : List UInt8} {code : Nat} (sequence : Sequence bytes code)
    (index : Nat) (rest : List UInt8) :
    decodeFrom index (bytes ++ rest) =
      (Char.ofNat code :: ·) <$> decodeFrom (index + bytes.length) rest := by
  cases sequence with
  | one first =>
    rw [List.singleton_append, decodeFrom.eq_def]
    exact if_pos first
  | @two a b first second =>
    have notOne : ¬a < 0x80 := UInt8.not_lt.mpr (UInt8.le_trans (by decide) first.1)
    rw [List.cons_append, List.singleton_append, decodeFrom.eq_def]
    simp [notOne, first, second]
  | @three a b c first second third =>
    have notOne : ¬a < 0x80 := UInt8.not_lt.mpr (UInt8.le_trans (by decide) first.1)
    have notTwo : ¬a ≤ 0xDF := UInt8.not_le.mpr (UInt8.lt_of_lt_of_le (by decide) first.1)
    rw [List.cons_append, List.cons_append, List.singleton_append, decodeFrom.eq_def]
    simp [notOne, notTwo, first, second, third]
  | @four a b c d first second third fourth =>
    have notOne : ¬a < 0x80 := UInt8.not_lt.mpr (UInt8.le_trans (by decide) first.1)
    have notTwo : ¬a ≤ 0xDF := UInt8.not_le.mpr (UInt8.lt_of_lt_of_le (by decide) first.1)
    have notThree : ¬a ≤ 0xEF := UInt8.not_le.mpr (UInt8.lt_of_lt_of_le (by decide) first.1)
    rw [List.cons_append, List.cons_append, List.cons_append, List.singleton_append,
      decodeFrom.eq_def]
    simp [notOne, notTwo, notThree, first, second, third, fourth]

/-- What decoding did, if it did not fail: it came to the end, or took one sequence and went on. -/
def Decodes (index : Nat) (bytes : List UInt8) (cs : List Char) : Prop :=
  (bytes = [] ∧ cs = []) ∨ ∃ sequence code rest others, Sequence sequence code ∧
    bytes = sequence ++ rest ∧ cs = Char.ofNat code :: others ∧
    decodeFrom (index + sequence.length) rest = .ok others

theorem decodes_sequence {index : Nat} {sequence : List UInt8} {code : Nat} {rest : List UInt8}
    {cs : List Char} (first : Sequence sequence code)
    (decoded : (Char.ofNat code :: ·) <$> decodeFrom (index + sequence.length) rest = .ok cs) :
    Decodes index (sequence ++ rest) cs := by
  cases later : decodeFrom (index + sequence.length) rest with
  | error fault =>
    rw [later] at decoded
    cases decoded
  | ok others =>
    rw [later] at decoded
    cases decoded
    exact .inr ⟨sequence, code, rest, others, first, rfl, rfl, later⟩

theorem decodes_of_decodeFrom {index : Nat} {bytes : List UInt8} {cs : List Char}
    (decoded : decodeFrom index bytes = .ok cs) : Decodes index bytes cs := by
  revert decoded
  -- all but the end and the four lengths of a sequence are faults
  fun_cases decodeFrom index bytes <;> intro decoded <;> try cases decoded; done
  case case1 =>
    cases decoded
    exact .inl ⟨rfl, rfl⟩
  case case2 a rest first => exact decodes_sequence (.one first) decoded
  case case5 a _ first b rest second =>
    exact decodes_sequence (.two (by simpa using first) (by simpa using second)) decoded
  case case10 a _ _ first b second c rest third =>
    exact decodes_sequence
      (.three (by simpa using first) (by simpa using second) (by simpa using third)) decoded
  case case17 a _ _ _ first b second c third d rest fourth =>
    exact decodes_sequence (.four (by simpa using first) (by simpa using second)
      (by simpa using third) (by simpa using fourth)) decoded

/-! ## Decoding a whole line -/

theorem decodeFrom_encode (index : Nat) (cs : List Char) : decodeFrom index (encode cs) = .ok cs := by
  induction cs generalizing index with
  | nil => rfl
  | cons c cs ih =>
    have here := decodeFrom_sequence (.utf8EncodeChar c) index (encode cs)
    rw [ih, Char.ofNat_toNat] at here
    exact here

theorem eq_encode_of_decodeFrom {index : Nat} {bytes : List UInt8} {cs : List Char}
    (decoded : decodeFrom index bytes = .ok cs) : bytes = encode cs := by
  induction cs generalizing index bytes with
  | nil =>
    obtain ⟨rfl, -⟩ | ⟨_, _, _, _, _, _, some, _⟩ := decodes_of_decodeFrom decoded
    · rfl
    · cases some
  | cons c cs ih =>
    obtain ⟨_, none⟩ | ⟨sequence, code, rest, others, first, rfl, same, later⟩ :=
      decodes_of_decodeFrom decoded
    · cases none
    · cases same
      calc sequence ++ rest
          = String.utf8EncodeChar (Char.ofNat code) ++ encode cs := by
            rw [first.utf8EncodeChar_ofNat, ← ih later]
        _ = encode (Char.ofNat code :: cs) := rfl

theorem decode_eq_ok_iff {bytes : List UInt8} {cs : List Char} :
    decode bytes = .ok cs ↔ bytes = encode cs := by
  constructor
  · exact eq_encode_of_decodeFrom
  · rintro rfl
    exact decodeFrom_encode 0 cs

/-- Some characters have the bytes as their form. -/
def IsUtf8 (bytes : List UInt8) : Prop := bytes.toByteArray.IsValidUTF8

theorem isUtf8_iff {bytes : List UInt8} : IsUtf8 bytes ↔ ∃ cs, bytes = encode cs := by
  constructor
  · rintro ⟨cs, same⟩
    refine ⟨cs, ?_⟩
    have lists := congrArg (fun array : ByteArray => array.data.toList) same
    simpa [List.utf8Encode, encode] using lists
  · rintro ⟨cs, rfl⟩
    exact .intro cs rfl

theorem isUtf8_iff_decode {bytes : List UInt8} : IsUtf8 bytes ↔ ∃ cs, decode bytes = .ok cs := by
  rw [isUtf8_iff]
  exact exists_congr fun cs => decode_eq_ok_iff.symm

/-- Below 128, a byte is a character of its own and no part of another one. -/
theorem isUtf8_append_iff {bytes : List UInt8} {b : UInt8} (single : b < 0x80) :
    IsUtf8 (bytes ++ [b]) ↔ IsUtf8 bytes := by
  rw [isUtf8_iff, isUtf8_iff]
  constructor
  · rintro ⟨cs, whole⟩
    obtain rfl | ⟨before, c, rfl⟩ := cs.eq_nil_or_concat
    · exact absurd whole (by simp [encode])
    · rw [List.concat_eq_append, encode_concat] at whole
      have ends := congrArg List.getLast? whole
      rw [List.getLast?_concat, List.getLast?_append,
        List.getLast?_eq_some_getLast String.utf8EncodeChar_ne_nil] at ends
      have alone : String.utf8EncodeChar c = [b] :=
        (Sequence.utf8EncodeChar c).eq_of_mem
          (Option.some.inj ends ▸ List.getLast_mem String.utf8EncodeChar_ne_nil) single
      rw [alone] at whole
      exact ⟨before, List.append_cancel_right whole⟩
  · rintro ⟨cs, rfl⟩
    refine ⟨cs ++ [Char.ofNat b.toNat], ?_⟩
    rw [encode_concat, (Sequence.one single).utf8EncodeChar_ofNat]

end ServerForge.Text.Utf8
