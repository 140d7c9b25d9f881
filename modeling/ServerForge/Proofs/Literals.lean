import ServerForge.Json.Record

/-! String literals. Main statements: a quoted text is read back from its opening quote to its
closing one, and holds no control character, so it never breaks a line. -/
namespace ServerForge.Json

/-- Nothing below the space, so no line feed and no carriage return either. -/
def Printable (cs : List Char) : Prop := ∀ c ∈ cs, 0x20 ≤ c.toNat

theorem Printable.not_mem {cs : List Char} (printable : Printable cs) {c : Char}
    (control : c.toNat < 0x20) : c ∉ cs :=
  fun member => absurd (printable c member) (by omega)

theorem Printable.of_subset {cs ds : List Char} (printable : Printable cs) (subset : ds ⊆ cs) :
    Printable ds := fun c member => printable c (subset member)

@[simp] theorem printable_nil : Printable [] := by simp [Printable]

@[simp] theorem printable_cons {c : Char} {cs : List Char} :
    Printable (c :: cs) ↔ 0x20 ≤ c.toNat ∧ Printable cs := by simp [Printable]

@[simp] theorem printable_append {before after : List Char} :
    Printable (before ++ after) ↔ Printable before ∧ Printable after := by
  simp only [Printable, List.mem_append]
  exact ⟨fun all => ⟨fun c member => all c (.inl member), fun c member => all c (.inr member)⟩,
    fun both c member => member.elim (both.1 c) (both.2 c)⟩

theorem hexDigit_printable (n : Nat) : 0x20 ≤ (hexDigit n).toNat := by
  have every : ∀ m < 16, 0x20 ≤ (Nat.digitChar m).toNat := by decide
  exact every (n % 16) (Nat.mod_lt n (by decide))

/-- The letters that stand for a character after a backslash. -/
def escapeLetters : List (Char × Char) := [
  ('"', '"'), ('\\', '\\'), ('b', '\x08'), ('t', '\t'), ('n', '\n'), ('f', '\x0c'), ('r', '\r')]

/-- Every form in which a text in quotes holds a character: as it is, by a letter or by a number. -/
theorem escapeChar_cases (c : Char) :
    (escapeChar c = [c] ∧ 0x20 ≤ c.toNat ∧ c ≠ '"' ∧ c ≠ '\\') ∨
    (∃ e, escapeChar c = ['\\', e] ∧ (e, c) ∈ escapeLetters) ∨
    (escapeChar c = ['\\', 'u', '0', '0', hexDigit (c.toNat / 16), hexDigit c.toNat] ∧
      c.toNat < 0x20) := by
  by_cases known : c ∈ escapeLetters.map (·.2)
  · have each : ∀ letter ∈ escapeLetters, escapeChar letter.2 = ['\\', letter.1] := by
      simp only [escapeLetters, List.forall_mem_cons]
      exact ⟨rfl, rfl, rfl, rfl, rfl, rfl, rfl, nofun⟩
    obtain ⟨⟨e, c⟩, listed, rfl⟩ := List.mem_map.mp known
    exact .inr (.inl ⟨e, each _ listed, listed⟩)
  · simp only [escapeLetters, List.map_cons, List.map_nil, List.mem_cons, List.not_mem_nil,
      or_false, not_or] at known
    obtain ⟨quote, slash, back, tab, feed, form, ret⟩ := known
    by_cases control : c.toNat < 0x20
    · refine .inr (.inr ⟨?_, control⟩)
      rw [escapeChar, if_neg quote, if_neg slash, if_pos control, if_neg back, if_neg tab,
        if_neg feed, if_neg form, if_neg ret]
    · refine .inl ⟨?_, Nat.le_of_not_lt control, quote, slash⟩
      rw [escapeChar, if_neg quote, if_neg slash, if_neg control]

theorem escapeLetters_printable {e c : Char} (listed : (e, c) ∈ escapeLetters) :
    0x20 ≤ e.toNat := by
  have all : escapeLetters.all (0x20 ≤ ·.1.toNat) = true := by decide
  simpa using List.all_eq_true.mp all (e, c) listed

theorem escapeChar_printable (c : Char) : Printable (escapeChar c) := by
  rcases escapeChar_cases c with ⟨shape, visible, -, -⟩ | ⟨e, shape, listed⟩ | ⟨shape, -⟩
  · simpa [shape] using visible
  · simpa [shape] using escapeLetters_printable listed
  · simp [shape, hexDigit_printable]

theorem quoteChars_printable (cs : List Char) : Printable (quoteChars cs) := by
  unfold quoteChars
  simp only [List.cons_append, printable_cons, printable_append, printable_nil, and_true]
  refine ⟨by decide, ?_, by decide⟩
  intro c member
  obtain ⟨d, _, inside⟩ := List.mem_flatMap.mp member
  exact escapeChar_printable d c inside

/-- The two digits of a control character say which one it is. -/
theorem hexQuad_control {n : Nat} (control : n < 0x20) :
    hexQuad '0' '0' (hexDigit (n / 16)) (hexDigit n) = some n := by
  have every : ∀ m < 0x20, hexQuad '0' '0' (hexDigit (m / 16)) (hexDigit m) = some m := by decide
  exact every n control

/-- One character, however it is escaped, is read as itself. -/
theorem readString_escapeChar (c : Char) (rest : List Char) :
    readString (escapeChar c ++ rest) =
      (readString rest).map fun read => (c :: read.1, read.2) := by
  have ends : ∀ d : Char, (do
      let read ← readString rest
      return (d :: read.1, read.2) : Except Fault (List Char × List Char)) =
      (readString rest).map fun read => (d :: read.1, read.2) := by
    intro d
    cases readString rest <;> rfl
  rcases escapeChar_cases c with
    ⟨shape, visible, quote, slash⟩ | ⟨e, shape, listed⟩ | ⟨shape, control⟩
  · rw [shape, List.singleton_append, readString, if_neg (Nat.not_lt.mpr visible)]
    · exact ends c
    all_goals simp_all
  · rw [shape]
    simp only [escapeLetters, List.mem_cons, List.not_mem_nil, or_false, Prod.mk.injEq] at listed
    rcases listed with same | same | same | same | same | same | same
    all_goals
      obtain ⟨rfl, rfl⟩ := same
      exact ends _
  · have low : isLowSurrogate c.toNat = false := by simp [isLowSurrogate]; omega
    have high : isHighSurrogate c.toNat = false := by simp [isHighSurrogate]; omega
    rw [shape]
    simp only [List.cons_append, List.nil_append, readString, hexQuad_control control, low, high,
      Bool.false_eq_true, if_false, Char.ofNat_toNat]
    exact ends c

theorem readString_escaped (cs rest : List Char) :
    readString (cs.flatMap escapeChar ++ '"' :: rest) = .ok (cs, rest) := by
  induction cs with
  | nil => rfl
  | cons c cs ih =>
    rw [List.flatMap_cons, List.append_assoc, readString_escapeChar, ih]
    rfl

theorem readText_quoteChars (room : Nat) (cs rest : List Char) :
    Codec.text.read room (quoteChars cs ++ rest) = .ok (String.ofList cs, rest) := by
  have opened : skipSpace (quoteChars cs ++ rest) =
      '"' :: (cs.flatMap escapeChar ++ '"' :: rest) := by
    simp [quoteChars, skipSpace, isSpace]
  simp only [Codec.text, opened, readString_escaped]
  rfl

/-- The text that a literal stands for, if the whole of it is a literal. -/
def literal? (cs : List Char) : Option String :=
  (readWhole (Codec.text.read depthLimit) cs).toOption

theorem literal?_quote (text : String) : literal? (quote text).toList = some text := by
  have read := readText_quoteChars depthLimit text.toList []
  rw [List.append_nil] at read
  simp [literal?, quote, readWhole, read, finish, skipSpace, bind, Except.bind, pure, Except.pure,
    Except.toOption]

end ServerForge.Json
