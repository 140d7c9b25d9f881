import ServerForge.Json.Printer
import ServerForge.Proofs.Literals

/-! String literals of scripts: the grammar of the double-quoted ones, in code where every mode is
the strict one, as a reader of their values. A value is a list of code units. Main statements: a
quoted text is a literal of that text, and a text between two quotes is one exactly if it needs no
escape, since an escape always stands for less than it takes. -/
namespace ServerForge.Script

/-! ## Values -/

/-- The code units of a code point in UTF-16. -/
def pointUnits (n : Nat) : List Nat :=
  if n < 0x10000 then [n]
  else [0xd800 + (n - 0x10000) / 0x400, 0xdc00 + (n - 0x10000) % 0x400]

def units (cs : List Char) : List Nat := cs.flatMap fun c => pointUnits c.toNat

@[simp] theorem units_nil : units [] = [] := rfl

@[simp] theorem units_cons (c : Char) (cs : List Char) :
    units (c :: cs) = pointUnits c.toNat ++ units cs := rfl

@[simp] theorem units_append (before after : List Char) :
    units (before ++ after) = units before ++ units after := List.flatMap_append

theorem pointUnits_length (n : Nat) :
    1 ≤ (pointUnits n).length ∧ (pointUnits n).length ≤ 2 := by
  unfold pointUnits
  split <;> simp

theorem length_le_units (cs : List Char) : cs.length ≤ (units cs).length := by
  induction cs with
  | nil => simp
  | cons c cs ih =>
    have unit := pointUnits_length c.toNat
    simp only [List.length_cons, units_cons, List.length_append]
    omega

/-! ## The grammar -/

/-- The ends of lines in scripts. -/
def isLineEnd (c : Char) : Bool := c == '\n' || c == '\r' || c == '\u2028' || c == '\u2029'

/-- The number that hexadecimal digits write, if all characters are such digits. -/
def hexNumber? (digits : List Char) : Option Nat :=
  digits.foldlM (fun n c => (Text.hexValue? c).map (16 * n + ·)) 0

/-- The characters that stand for another one after a backslash, and the quotes. -/
def singleEscapes : List (Char × Nat) := [
  ('b', 0x8), ('t', 0x9), ('n', 0xa), ('v', 0xb), ('f', 0xc), ('r', 0xd), ('"', 0x22),
  ('\'', 0x27), ('\\', 0x5c)]

/-- What follows a backslash: the code units it stands for and the number of its characters. A
line end continues the literal on the next line and stands for nothing. Other digits than a zero
before something else than a digit are refused. -/
def escape? : List Char → Option (List Nat × Nat)
  | [] => none
  | 'x' :: a :: b :: _ => (hexNumber? [a, b]).map fun n => ([n], 3)
  | 'u' :: '\x7b' :: cs =>
    let digits := cs.takeWhile fun c => (Text.hexValue? c).isSome
    if digits ≠ [] ∧ (cs.drop digits.length).head? = some '\x7d' then
      ((hexNumber? digits).filter (· ≤ 0x10ffff)).map fun n => (pointUnits n, digits.length + 3)
    else none
  | 'u' :: a :: b :: c :: d :: _ => (hexNumber? [a, b, c, d]).map fun n => ([n], 5)
  | '\r' :: '\n' :: _ => some ([], 2)
  | c :: cs =>
    match singleEscapes.lookup c with
    | some unit => some ([unit], 1)
    | none =>
      if c == '0' && !(cs.head?.any Text.isDigit) then some ([0], 1)
      else if c == 'x' || c == 'u' || Text.isDigit c then none
      else if isLineEnd c then some ([], 1)
      else some (pointUnits c.toNat, 1)

/-- The value up to the closing quote, and what follows the quote; `skip` characters were taken
by an escape. -/
def readUnits : Nat → List Char → Option (List Nat × List Char)
  | _, [] => none
  | skip + 1, _ :: cs => readUnits skip cs
  | 0, c :: cs =>
    if c = '"' then some ([], cs)
    else if c = '\\' then do
      let (escaped, taken) ← escape? cs
      let (value, rest) ← readUnits taken cs
      return (escaped ++ value, rest)
    else if c = '\n' ∨ c = '\r' then none
    else do
      let (value, rest) ← readUnits 0 cs
      return (pointUnits c.toNat ++ value, rest)

/-- A literal at the front: its value, and what follows it. -/
def readLiteral : List Char → Option (List Nat × List Char)
  | '"' :: cs => readUnits 0 cs
  | _ => none

/-- A character that stands for itself in a literal. -/
def isRaw (c : Char) : Bool := c != '"' && c != '\\' && c != '\n' && c != '\r'

theorem readUnits_raw {c : Char} (raw : isRaw c = true) (cs : List Char) :
    readUnits 0 (c :: cs) =
      (readUnits 0 cs).map fun read => (pointUnits c.toNat ++ read.1, read.2) := by
  simp only [isRaw, Bool.and_eq_true, bne_iff_ne] at raw
  obtain ⟨⟨⟨quote, slash⟩, feed⟩, ret⟩ := raw
  rw [readUnits, if_neg quote, if_neg slash, if_neg (by simp [feed, ret])]
  cases readUnits 0 cs <;> rfl

theorem readUnits_backslash (cs : List Char) : readUnits 0 ('\\' :: cs) =
    (escape? cs).bind fun escape =>
      (readUnits escape.2 cs).map fun read => (escape.1 ++ read.1, read.2) := by
  rw [readUnits, if_neg (by decide), if_pos rfl]
  cases escape? cs with
  | none => rfl
  | some escape => cases read : readUnits escape.2 cs <;> simp [read]

/-! ## Quoted texts -/

theorem hexNumber?_control {n : Nat} (control : n < 0x20) :
    hexNumber? ['0', '0', Json.hexDigit (n / 16), Json.hexDigit n] = some n := by
  have every : ∀ m < 0x20,
      hexNumber? ['0', '0', Json.hexDigit (m / 16), Json.hexDigit m] = some m := by decide
  exact every n control

theorem escape?_single {c : Char} {unit : Nat} (single : (c, unit) ∈ singleEscapes)
    (rest : List Char) : escape? (c :: rest) = some ([unit], 1) := by
  simp only [singleEscapes, List.mem_cons, List.not_mem_nil, or_false, Prod.mk.injEq] at single
  rcases single with same | same | same | same | same | same | same | same | same
  all_goals
    obtain ⟨rfl, rfl⟩ := same
    rfl

theorem single_lt : ∀ escape ∈ singleEscapes, escape.2 < 0x10000 := by decide

/-- The letters of one language are letters of the other. -/
theorem single_of_escapeLetters {e c : Char} (listed : (e, c) ∈ Json.escapeLetters) :
    (e, c.toNat) ∈ singleEscapes := by
  simp only [Json.escapeLetters, List.mem_cons, List.not_mem_nil, or_false, Prod.mk.injEq] at listed
  rcases listed with same | same | same | same | same | same | same
  all_goals
    obtain ⟨rfl, rfl⟩ := same
    decide

theorem isRaw_of_visible {c : Char} (visible : 0x20 ≤ c.toNat) (quote : c ≠ '"')
    (slash : c ≠ '\\') : isRaw c = true := by
  have notFeed : c ≠ '\n' := by
    rintro rfl
    exact absurd visible (by decide)
  have notReturn : c ≠ '\r' := by
    rintro rfl
    exact absurd visible (by decide)
  simp [isRaw, quote, slash, notFeed, notReturn]

/-- One character, however it is escaped, is read as itself. -/
theorem readUnits_escapeChar (c : Char) (rest : List Char) :
    readUnits 0 (Json.escapeChar c ++ rest) =
      (readUnits 0 rest).map fun read => (pointUnits c.toNat ++ read.1, read.2) := by
  rcases Json.escapeChar_cases c with
    ⟨shape, visible, quote, slash⟩ | ⟨e, shape, listed⟩ | ⟨shape, control⟩
  · rw [shape, List.singleton_append, readUnits_raw (isRaw_of_visible visible quote slash)]
  · have single := single_of_escapeLetters listed
    have unit : pointUnits c.toNat = [c.toNat] := if_pos (single_lt _ single)
    rw [shape, List.cons_append, readUnits_backslash, List.singleton_append,
      escape?_single single, unit]
    rfl
  · have unit : pointUnits c.toNat = [c.toNat] := if_pos (by omega)
    have escape : escape? ('u' :: '0' :: '0' :: Json.hexDigit (c.toNat / 16) ::
        Json.hexDigit c.toNat :: rest) = some ([c.toNat], 5) := by
      rw [escape?, hexNumber?_control control]
      · rfl
      · simp
    rw [shape, unit]
    simp only [List.cons_append, List.nil_append]
    rw [readUnits_backslash, escape]
    rfl

theorem readUnits_escaped (cs rest : List Char) :
    readUnits 0 (cs.flatMap Json.escapeChar ++ '"' :: rest) = some (units cs, rest) := by
  induction cs with
  | nil => rfl
  | cons c cs ih =>
    rw [List.flatMap_cons, List.append_assoc, readUnits_escapeChar, ih]
    rfl

theorem readLiteral_quote (text : String) (rest : List Char) :
    readLiteral ((Json.quote text).toList ++ rest) = some (units text.toList, rest) := by
  have shape : (Json.quote text).toList ++ rest =
      '"' :: (text.toList.flatMap Json.escapeChar ++ '"' :: rest) := by
    simp [Json.quote, Json.quoteChars]
  rw [shape, readLiteral, readUnits_escaped]

/-! ## Texts between two quotes -/

theorem readUnits_of_raw {cs : List Char} (raw : ∀ c ∈ cs, isRaw c = true) (rest : List Char) :
    readUnits 0 (cs ++ '"' :: rest) = some (units cs, rest) := by
  induction cs with
  | nil => rfl
  | cons c cs ih =>
    have later := ih fun d member => raw d (by simp [member])
    rw [List.cons_append, readUnits_raw (raw c (by simp)), later]
    rfl

/-- An escape stands for no more units than the characters it takes. -/
theorem escape?_length {cs : List Char} {escaped : List Nat} {taken : Nat}
    (read : escape? cs = some (escaped, taken)) :
    escaped.length + (units (cs.drop taken)).length ≤ (units cs).length := by
  have split : (units cs).length =
      (units (cs.take taken)).length + (units (cs.drop taken)).length := by
    rw [← List.length_append, ← units_append, List.take_append_drop]
  rw [split]
  apply Nat.add_le_add_right
  have wide := length_le_units (cs.take taken)
  rw [List.length_take] at wide
  unfold escape? at read
  split at read
  next => cases read
  next a b rest =>
    obtain ⟨n, _, made⟩ := Option.map_eq_some_iff.mp read
    cases made
    simp only [List.length_cons, List.length_nil] at wide ⊢
    omega
  next rest =>
    dsimp only at read
    split at read
    next =>
      obtain ⟨n, _, made⟩ := Option.map_eq_some_iff.mp read
      cases made
      have pair := pointUnits_length n
      simp only [List.length_cons] at wide
      omega
    next => cases read
  next a b c d rest _ =>
    obtain ⟨n, _, made⟩ := Option.map_eq_some_iff.mp read
    cases made
    simp only [List.length_cons, List.length_nil] at wide ⊢
    omega
  next rest =>
    cases read
    simp
  next c rest _ _ _ _ =>
    simp only [List.length_cons] at wide
    split at read
    next unit _ =>
      cases read
      simp only [List.length_singleton]
      omega
    next =>
      split at read
      next =>
        cases read
        simp only [List.length_singleton]
        omega
      split at read
      next => cases read
      split at read
      next =>
        cases read
        simp
      next =>
        cases read
        simp

/-- Everything that reading from a character on can come from. -/
theorem readUnits_cons {c : Char} {cs : List Char} {value : List Nat} {rest : List Char}
    (read : readUnits 0 (c :: cs) = some (value, rest)) :
    (c = '"' ∧ value = [] ∧ rest = cs) ∨
    (c = '\\' ∧ ∃ escaped taken later, escape? cs = some (escaped, taken) ∧
      readUnits taken cs = some (later, rest) ∧ value = escaped ++ later) ∨
    (isRaw c = true ∧ ∃ later, readUnits 0 cs = some (later, rest) ∧
      value = pointUnits c.toNat ++ later) := by
  by_cases quote : c = '"'
  · rw [readUnits, if_pos quote] at read
    cases read
    exact .inl ⟨quote, rfl, rfl⟩
  by_cases slash : c = '\\'
  · subst slash
    rw [readUnits_backslash] at read
    obtain ⟨⟨escaped, taken⟩, escape, read⟩ := Option.bind_eq_some_iff.mp read
    obtain ⟨⟨later, after⟩, below, made⟩ := Option.map_eq_some_iff.mp read
    cases made
    exact .inr (.inl ⟨rfl, escaped, taken, later, escape, below, rfl⟩)
  by_cases lineEnd : c = '\n' ∨ c = '\r'
  · rw [readUnits, if_neg quote, if_neg slash, if_pos lineEnd] at read
    cases read
  · obtain ⟨notFeed, notReturn⟩ := not_or.mp lineEnd
    have raw : isRaw c = true := by simp [isRaw, quote, slash, notFeed, notReturn]
    rw [readUnits_raw raw] at read
    obtain ⟨⟨later, after⟩, below, made⟩ := Option.map_eq_some_iff.mp read
    cases made
    exact .inr (.inr ⟨raw, later, below, rfl⟩)

/-- What is read is no longer than the characters that it is read from. -/
theorem readUnits_length {skip : Nat} {cs : List Char} {value : List Nat} {rest : List Char}
    (read : readUnits skip cs = some (value, rest)) :
    value.length + 1 + (units rest).length ≤ (units (cs.drop skip)).length := by
  induction cs generalizing skip value with
  | nil => cases skip <;> cases read
  | cons c cs ih =>
    cases skip with
    | succ skip => exact ih read
    | zero =>
      have unit := (pointUnits_length c.toNat).1
      simp only [List.drop_zero, units_cons, List.length_append]
      rcases readUnits_cons read with ⟨_, rfl, rfl⟩ |
        ⟨_, escaped, taken, later, escape, after, rfl⟩ | ⟨_, later, after, rfl⟩
      · simp only [List.length_nil]
        omega
      · have short := escape?_length escape
        have bound := ih after
        simp only [List.length_append]
        omega
      · have bound := ih after
        simp only [List.drop_zero] at bound
        simp only [List.length_append]
        omega

/-- What is as long as that is read from characters that stand for themselves. -/
theorem raw_of_readUnits {cs : List Char} {value : List Nat} {rest : List Char}
    (read : readUnits 0 cs = some (value, rest))
    (full : (units cs).length ≤ value.length + 1 + (units rest).length) :
    ∃ body, cs = body ++ '"' :: rest ∧ ∀ c ∈ body, isRaw c = true := by
  induction cs generalizing value with
  | nil => cases read
  | cons c cs ih =>
    have unit := (pointUnits_length c.toNat).1
    simp only [units_cons, List.length_append] at full
    rcases readUnits_cons read with ⟨rfl, rfl, rfl⟩ |
      ⟨_, escaped, taken, later, escape, after, rfl⟩ | ⟨raw, later, after, rfl⟩
    · exact ⟨[], rfl, by simp⟩
    · have short := escape?_length escape
      have bound := readUnits_length after
      simp only [List.length_append] at full
      omega
    · simp only [List.length_append] at full
      obtain ⟨body, split, all⟩ := ih after (by omega)
      refine ⟨c :: body, by rw [split]; rfl, ?_⟩
      intro d member
      rcases List.mem_cons.mp member with rfl | inside
      · exact raw
      · exact all d inside

end ServerForge.Script
