import ServerForge.Proofs.Lines
import ServerForge.Proofs.Rereading

/-! The rows of an indented value. Main statement: each of them begins, after its indentation, with
a character that is neither a blank nor a backtick, since no text in the value breaks a row; so a
value can stand between fences of backticks and never closes them. -/
namespace ServerForge

namespace Text

/-- A row without control characters, on which something other than a backtick comes first. -/
structure FenceRow (row : List Char) : Prop where
  printable : Json.Printable row
  begins : ∃ c rest, trimStart row = c :: rest ∧ c ≠ '`'

theorem FenceRow.ne_nil {row : List Char} (inner : FenceRow row) : row ≠ [] := by
  rintro rfl
  obtain ⟨c, rest, begins, -⟩ := inner.begins
  cases begins

theorem FenceRow.append {row more : List Char} (inner : FenceRow row)
    (printable : Json.Printable more) : FenceRow (row ++ more) := by
  obtain ⟨c, rest, begins, other⟩ := inner.begins
  refine ⟨Json.printable_append.mpr ⟨inner.printable, printable⟩, c, rest ++ more, ?_, other⟩
  rw [trimStart_append (by simp [begins]), begins, List.cons_append]

theorem FenceRow.indented {row : List Char} (inner : FenceRow row) (n : Nat) :
    FenceRow (List.replicate n ' ' ++ row) := by
  have space : ∀ c ∈ List.replicate n ' ', c = ' ' := fun c => List.eq_of_mem_replicate
  have printable : Json.Printable (List.replicate n ' ') := fun c member =>
    space c member ▸ by decide
  refine ⟨Json.printable_append.mpr ⟨printable, inner.printable⟩, ?_⟩
  rw [trimStart, List.dropWhile_append_of_pos fun c member => space c member ▸ by decide]
  exact inner.begins

theorem fenceRow_of_head {c : Char} {cs : List Char} (printable : Json.Printable (c :: cs))
    (visible : Unicode.isBlank c = false) (other : c ≠ '`') : FenceRow (c :: cs) :=
  ⟨printable, c, cs, by simp [trimStart, visible], other⟩

/-- A text that can stand between fences. -/
def Fenceable (cs : List Char) : Prop := ∀ row ∈ rows cs, FenceRow row

theorem FenceRow.fenceable {row : List Char} (inner : FenceRow row) : Fenceable row := by
  rw [Fenceable, rows_of_unbroken (inner.printable.not_mem (by decide)), List.forall_mem_singleton]
  exact inner

theorem Fenceable.append {before after : List Char} (first : Fenceable before)
    (second : Fenceable after) : Fenceable (before ++ after) := by
  obtain ⟨start, last, head, rest, ended, begun, joined⟩ := rows_append_rows before after
  rw [Fenceable, ended, List.forall_mem_append, List.forall_mem_singleton] at first
  rw [Fenceable, begun, List.forall_mem_cons] at second
  rw [Fenceable, joined, List.forall_mem_append, List.forall_mem_cons]
  exact ⟨first.1, first.2.append second.1.printable, second.2⟩

theorem Fenceable.feed {before after : List Char} (first : Fenceable before)
    (second : Fenceable after) : Fenceable (before ++ '\n' :: after) := by
  rw [Fenceable, rows_append_feed, List.forall_mem_append]
  exact ⟨first, second⟩

theorem Fenceable.indented {cs : List Char} (fenceable : Fenceable cs) (n : Nat) :
    Fenceable (List.replicate n ' ' ++ cs) := by
  have unbroken : '\n' ∉ List.replicate n ' ' := fun member =>
    absurd (List.eq_of_mem_replicate member) (by decide)
  obtain ⟨first, others, split, longer⟩ := rows_append unbroken cs
  rw [Fenceable, split, List.forall_mem_cons] at fenceable
  rw [Fenceable, longer, List.forall_mem_cons]
  exact ⟨fenceable.1.indented n, fenceable.2⟩

theorem Fenceable.lineBreak {before after : List Char} (first : Fenceable before)
    (second : Fenceable after) (level : Nat) :
    Fenceable (before ++ (Json.lineBreak level ++ after)) :=
  first.feed (second.indented (2 * level))

theorem visible_of_isDigit {c : Char} (digit : isDigit c = true) :
    Unicode.isBlank c = false ∧ c ≠ '`' := by
  simp only [isDigit, Bool.and_eq_true, decide_eq_true_eq] at digit
  have low : 48 ≤ c.toNat := digit.1
  have high : c.toNat < 58 := Nat.lt_succ_of_le digit.2
  have visible : ∀ n < 58, 48 ≤ n → Unicode.covers Unicode.blankRanges n = false := by decide
  refine ⟨visible c.toNat high low, ?_⟩
  rintro rfl
  exact absurd high (by decide)

end Text

namespace Json

theorem setOut_begins (significand : Nat) (exponent : Int) : ∃ c rest,
    Decimal.setOut Decimal.layout significand exponent = c :: rest ∧ Text.isDigit c = true := by
  obtain ⟨d, ds, digits⟩ := List.exists_cons_of_ne_nil (Text.digits_ne_nil significand)
  have digit : Text.isDigit d = true := Text.isDigit_of_mem_digits (digits ▸ List.mem_cons_self)
  unfold Decimal.setOut
  rw [digits]
  dsimp only
  split
  · split
    · exact ⟨d, _, rfl, digit⟩
    · split
      · exact ⟨d, _, rfl, digit⟩
      · exact ⟨'0', _, rfl, by decide⟩
  · exact ⟨d, _, rfl, digit⟩

theorem Number.chars_begins (n : Number) :
    ∃ c rest, n.chars = c :: rest ∧ (c = '-' ∨ Text.isDigit c = true) := by
  have positive (n : Nat) : ∃ c rest, Text.digits n = c :: rest ∧ Text.isDigit c = true := by
    obtain ⟨d, ds, digits⟩ := List.exists_cons_of_ne_nil (Text.digits_ne_nil n)
    exact ⟨d, ds, digits, Text.isDigit_of_mem_digits (digits ▸ List.mem_cons_self)⟩
  cases n with
  | int value =>
    rw [Number.chars]
    split
    · exact ⟨'-', _, rfl, .inl rfl⟩
    · obtain ⟨c, rest, digits, digit⟩ := positive value.natAbs
      exact ⟨c, rest, digits, .inr digit⟩
  | float x =>
    rw [Number.chars, Decimal.print]
    dsimp only
    split
    · exact ⟨'-', _, rfl, .inl rfl⟩
    · split
      · exact ⟨'0', _, rfl, .inr (by decide)⟩
      · obtain ⟨c, rest, digits, digit⟩ :=
          setOut_begins (Decimal.shortest x).1 (Decimal.shortest x).2
        exact ⟨c, rest, digits, .inr digit⟩

theorem Number.chars_fenceRow (n : Number) : Text.FenceRow n.chars := by
  obtain ⟨c, rest, text, first⟩ := n.chars_begins
  have printable := n.chars_printable
  rw [text] at printable ⊢
  rcases first with rfl | digit
  · exact Text.fenceRow_of_head printable (by decide) (by decide)
  · obtain ⟨visible, other⟩ := Text.visible_of_isDigit digit
    exact Text.fenceRow_of_head printable visible other

theorem quoteChars_fenceRow (cs : List Char) : Text.FenceRow (quoteChars cs) :=
  Text.fenceRow_of_head (quoteChars_printable cs) (by decide) (by decide)

theorem mark_fenceable {c : Char} (mark : c ∈ ['[', ']', '\x7b', '\x7d', ',']) :
    Text.Fenceable [c] := by
  simp only [List.mem_cons, List.not_mem_nil, or_false] at mark
  rcases mark with rfl | rfl | rfl | rfl | rfl <;>
    exact (Text.fenceRow_of_head (by simp) (by decide) (by decide)).fenceable

/-- A key and its value. -/
theorem member_fenceable (key : String) {value : List Char} (fenceable : Text.Fenceable value) :
    Text.Fenceable (quoteChars key.toList ++ ':' :: ' ' :: value) := by
  have colon : Printable [':', ' '] := by simp
  have lead := ((quoteChars_fenceRow key.toList).append colon).fenceable
  simpa using lead.append fenceable

mutual

theorem printed_fenceable (level : Nat) : ∀ v : Json, Text.Fenceable (printed .indented level v)
  | .null | .bool true | .bool false | .arr [] | .obj [] => by
    refine Text.FenceRow.fenceable ?_
    rw [printed]
    exact Text.fenceRow_of_head (by simp) (by decide) (by decide)
  | .num n => by
    rw [printed]
    exact n.chars_fenceRow.fenceable
  | .str value => by
    rw [printed]
    exact (quoteChars_fenceRow value.toList).fenceable
  | .arr (item :: items) => by
    have opened := (mark_fenceable (c := '[') (by simp)).lineBreak
      (printed_fenceable (level + 1) item) (level + 1)
    have listed := printedItems_fenceable (level + 1) items opened
    have closed := listed.lineBreak (mark_fenceable (c := ']') (by simp)) level
    simpa [printed] using closed
  | .obj ((key, value) :: members) => by
    have first := member_fenceable key (printed_fenceable (level + 1) value)
    have opened := (mark_fenceable (c := '\x7b') (by simp)).lineBreak first (level + 1)
    have listed := printedMembers_fenceable (level + 1) members opened
    have closed := listed.lineBreak (mark_fenceable (c := '\x7d') (by simp)) level
    simpa [printed] using closed

theorem printedItems_fenceable (level : Nat) : ∀ (items : List Json) {cs : List Char},
    Text.Fenceable cs → Text.Fenceable (cs ++ printedItems .indented level items)
  | [], _, before => by simpa [printedItems] using before
  | item :: items, cs, before => by
    have comma := before.append (mark_fenceable (c := ',') (by simp))
    have next := comma.lineBreak (printed_fenceable level item) level
    simpa [printedItems] using printedItems_fenceable level items next

theorem printedMembers_fenceable (level : Nat) :
    ∀ (members : List (String × Json)) {cs : List Char},
      Text.Fenceable cs → Text.Fenceable (cs ++ printedMembers .indented level members)
  | [], _, before => by simpa [printedMembers] using before
  | (key, value) :: members, cs, before => by
    have comma := before.append (mark_fenceable (c := ',') (by simp))
    have next := comma.lineBreak (member_fenceable key (printed_fenceable level value)) level
    simpa [printedMembers] using printedMembers_fenceable level members next

end

end Json

end ServerForge
