import Mathlib.Data.Nat.Digits.Defs
import ServerForge.Toml.Document

/-! Basic strings of a TOML document. Main statements: whatever way is chosen to spell each
character between the quotes, the text that is spelled is the text that is read; and every text can
be spelled. -/
namespace ServerForge.Toml

/-! ## Spellings -/

/-- The controls other than the tab, which stand in no string as they are. -/
def IsControl (c : Char) : Prop := c.toNat < 0x20 ∧ c ≠ '\t' ∨ c.toNat = 0x7F

instance (c : Char) : Decidable (IsControl c) := inferInstanceAs (Decidable (_ ∨ _))

/-- The letters that stand for a character after a backslash. -/
def letterEscapes : List (Char × Char) := [
  ('b', '\x08'), ('t', '\t'), ('n', '\n'), ('f', '\x0c'), ('r', '\r'), ('"', '"'), ('\\', '\\')]

/-- The digit stands for the number, in either case. -/
def IsHexDigit (n : Nat) (digit : Char) : Prop :=
  "0123456789abcdef".toList[n]? = some digit ∨ "0123456789ABCDEF".toList[n]? = some digit

/-- The digits are those of the code point of a character, the highest place first. -/
def IsCodePoint (c : Char) (digits : List Char) : Prop :=
  ∃ places, List.Forall₂ IsHexDigit places digits ∧ Nat.ofDigits 16 places.reverse = c.toNat

/-- The ways to write a character between quotes: as it is, by a letter, or by its code point. -/
inductive Spells (c : Char) : List Char → Prop where
  | plain (visible : ¬ IsControl c) (quote : c ≠ '"') (slash : c ≠ '\\') : Spells c [c]
  | letter {e : Char} (known : (e, c) ∈ letterEscapes) : Spells c ['\\', e]
  | short {digits : List Char} (four : digits.length = 4) (point : IsCodePoint c digits) :
      Spells c ('\\' :: 'u' :: digits)
  | long {digits : List Char} (eight : digits.length = 8) (point : IsCodePoint c digits) :
      Spells c ('\\' :: 'U' :: digits)

/-- Characters spelled one after the other. -/
inductive SpellsAll : List Char → List Char → Prop where
  | nil : SpellsAll [] []
  | cons {c : Char} {cs part rest : List Char} (first : Spells c part)
      (others : SpellsAll cs rest) : SpellsAll (c :: cs) (part ++ rest)

/-- The literal is a string that stands for the value. -/
def IsBasicString (value literal : String) : Prop :=
  ∃ inner, SpellsAll value.toList inner ∧ literal.toList = '"' :: inner ++ ['"']

/-! ## Code points -/

theorem hexValue?_of_isHexDigit {n : Nat} {digit : Char} (stands : IsHexDigit n digit) :
    Text.hexValue? digit = some n := by
  have lower : ∀ m < 16, ("0123456789abcdef".toList[m]?).bind Text.hexValue? = some m := by
    decide
  have upper : ∀ m < 16, ("0123456789ABCDEF".toList[m]?).bind Text.hexValue? = some m := by
    decide
  rcases stands with found | found
  · rw [← lower n (List.getElem?_eq_some_iff.mp found).1, found, Option.bind_some]
  · rw [← upper n (List.getElem?_eq_some_iff.mp found).1, found, Option.bind_some]

theorem mapM_hexValue? {places : List Nat} {digits : List Char}
    (stand : List.Forall₂ IsHexDigit places digits) :
    digits.mapM Text.hexValue? = some places := by
  induction stand with
  | nil => rfl
  | cons first others ih =>
    rw [List.mapM_cons, hexValue?_of_isHexDigit first, ih]
    rfl

theorem codePoint_of_isCodePoint {c : Char} {digits : List Char} (point : IsCodePoint c digits) :
    codePoint digits = some c := by
  obtain ⟨places, stand, value⟩ := point
  have number : places.foldl (fun n value => n * 16 + value) 0 = c.toNat := by
    rw [← value, Nat.ofDigits_eq_foldr, List.foldr_reverse]
    congr 1
    funext n place
    rw [Nat.cast_id]
    omega
  have valid : c.toNat.isValidChar := c.valid
  rw [codePoint, mapM_hexValue? stand]
  simp only [Option.bind_eq_bind, Option.bind_some, number, valid, dif_pos]
  exact congrArg some (Char.ext UInt32.ofNat_toNat)

/-! ## Reading -/

theorem isPrintable_of_not_isControl {c : Char} (visible : ¬ IsControl c) :
    isPrintable c = true := by
  unfold IsControl at visible
  by_cases tab : c = '\t'
  · simp [isPrintable, tab]
  · simp only [tab, ne_eq, not_false_eq_true, and_true] at visible
    simp only [isPrintable, Bool.or_eq_true, Bool.and_eq_true, decide_eq_true_eq]
    exact .inr (by omega)

theorem readBasic_spells {c : Char} {part : List Char} (spells : Spells c part)
    (rest : List Char) : readBasic (part ++ rest) = andThen c (readBasic rest) := by
  cases spells with
  | plain visible quote slash =>
    rw [List.singleton_append, readBasic,
      if_pos ⟨isPrintable_of_not_isControl visible, slash⟩] <;> simp_all
  | letter known =>
    simp only [letterEscapes, List.mem_cons, Prod.mk.injEq, List.not_mem_nil, or_false] at known
    obtain ⟨rfl, rfl⟩ | ⟨rfl, rfl⟩ | ⟨rfl, rfl⟩ | ⟨rfl, rfl⟩ | ⟨rfl, rfl⟩ | ⟨rfl, rfl⟩ |
      ⟨rfl, rfl⟩ := known <;> rfl
  | @short digits four point =>
    have found := codePoint_of_isCodePoint point
    match digits, four with
    | [a, b, d, e], _ =>
      change (codePoint [a, b, d, e] >>= fun c => andThen c (readBasic rest)) = _
      rw [found]
      rfl
  | @long digits eight point =>
    have found := codePoint_of_isCodePoint point
    match digits, eight with
    | [a, b, d, e, f, g, h, i], _ =>
      change (codePoint [a, b, d, e, f, g, h, i] >>= fun c => andThen c (readBasic rest)) = _
      rw [found]
      rfl

theorem readBasic_spelled {cs inner : List Char} (spelled : SpellsAll cs inner)
    (rest : List Char) : readBasic (inner ++ '"' :: rest) = some (cs, rest) := by
  induction spelled with
  | nil => rfl
  | cons first others ih =>
    rw [List.append_assoc, readBasic_spells first, ih]
    rfl

/-- A quote never comes first, for a character spells itself only if it is none. -/
theorem head?_ne_quote {cs inner : List Char} (spelled : SpellsAll cs inner) :
    inner.head? ≠ some '"' := by
  cases spelled with
  | nil => simp
  | cons first others =>
    cases first with
    | plain visible quote slash => simpa using quote
    | letter | short | long => simp

/-- A string is read up to its closing quote, unless two more quotes could belong to it. -/
theorem readText_basicString {value literal : String} (stands : IsBasicString value literal)
    {rest : List Char} (apart : rest.head? ≠ some '"') :
    readText (literal.toList ++ rest) = some (value.toList, rest) := by
  obtain ⟨inner, spelled, written⟩ := stands
  have text : literal.toList ++ rest = '"' :: (inner ++ '"' :: rest) := by simp [written]
  have single : ∀ more, inner ++ '"' :: rest ≠ '"' :: '"' :: more := by
    intro more same
    cases inner with
    | nil => simp_all
    | cons c inner => exact head?_ne_quote spelled (by simp_all)
  rw [text, readText]
  · exact readBasic_spelled spelled rest
  · exact fun more same => single more same

theorem readValue_basicString {value literal : String} (stands : IsBasicString value literal)
    (room : Nat) {rest : List Char} (apart : rest.head? ≠ some '"') :
    readValue room (literal.toList ++ rest) = some (.text value, rest) := by
  have read := readText_basicString stands apart
  obtain ⟨inner, -, written⟩ := stands
  rw [written] at read ⊢
  unfold readValue
  simp only [List.cons_append] at read ⊢
  rw [read, Option.map_some, String.ofList_toList]

/-! ## Every text can be spelled -/

/-- A character that cannot stand for itself is written by its code point. -/
def spelling (c : Char) : List Char :=
  if c = '"' ∨ c = '\\' then ['\\', c]
  else if IsControl c then
    ['\\', 'u', '0', '0', Nat.digitChar (c.toNat / 16), Nat.digitChar (c.toNat % 16)]
  else [c]

def basicString (value : String) : String :=
  String.ofList ('"' :: value.toList.flatMap spelling ++ ['"'])

theorem spelling_spells (c : Char) : Spells c (spelling c) := by
  unfold spelling
  split
  next special =>
    rcases special with rfl | rfl <;> exact .letter (by decide)
  next notSpecial =>
  split
  next control =>
    have small : c.toNat < 0x80 := by
      unfold IsControl at control
      omega
    have digit : ∀ n < 16, IsHexDigit n (Nat.digitChar n) := by
      unfold IsHexDigit
      decide
    refine .short rfl ⟨[0, 0, c.toNat / 16, c.toNat % 16], ?_, ?_⟩
    · have zero : IsHexDigit 0 '0' := .inl rfl
      exact .cons zero (.cons zero (.cons (digit _ (by omega)) (.cons (digit _ (by omega)) .nil)))
    · simp only [List.reverse_cons, List.reverse_nil, List.nil_append, List.cons_append,
        Nat.ofDigits_cons, Nat.ofDigits_nil]
      omega
  next visible =>
    rw [not_or] at notSpecial
    exact .plain visible notSpecial.1 notSpecial.2

theorem isBasicString_basicString (value : String) :
    IsBasicString value (basicString value) := by
  refine ⟨value.toList.flatMap spelling, ?_, by rw [basicString, String.toList_ofList]⟩
  induction value.toList with
  | nil => exact .nil
  | cons c cs ih => exact .cons (spelling_spells c) ih

end ServerForge.Toml
