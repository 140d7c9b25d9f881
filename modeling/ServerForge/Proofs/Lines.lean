import ServerForge.Text.Split

/-! The lines of a text. A line feed ends a line, and a carriage return right before it goes with
it. Main statement: a text that was written line by line is read back line by line. -/
namespace ServerForge.Text

/-- The pieces between the line feeds. -/
def rows (cs : List Char) : List (List Char) := splitWhere (· == '\n') cs

/-- A line without the carriage return at its end. -/
def withoutReturn (row : List Char) : List Char :=
  if row.getLast? = some '\r' then row.dropLast else row

/-- What follows the last line feed is a line too, unless it is empty. -/
def lines (text : String) : List (List Char) :=
  (rows text.toList).dropLast.map withoutReturn ++
    (rows text.toList).getLast?.toList.filter (!·.isEmpty)

/-- Written out with a line feed, such a line stays one line. -/
def Whole (line : List Char) : Prop := '\n' ∉ line ∧ line.getLast? ≠ some '\r'

section
variable {α : Type} [BEq α] [LawfulBEq α] {mark : α} {before : List α}

theorem takeWhile_append_of_not_mem (absent : mark ∉ before) (after : List α) :
    (before ++ after).takeWhile (· != mark) = before ++ after.takeWhile (· != mark) :=
  List.takeWhile_append_of_pos fun _ member =>
    bne_iff_ne.mpr fun same => absent (same ▸ member)

theorem dropWhile_append_of_not_mem (absent : mark ∉ before) (after : List α) :
    (before ++ after).dropWhile (· != mark) = after.dropWhile (· != mark) :=
  List.dropWhile_append_of_pos fun _ member =>
    bne_iff_ne.mpr fun same => absent (same ▸ member)

end

theorem rows_append_feed (before after : List Char) :
    rows (before ++ '\n' :: after) = rows before ++ rows after :=
  splitWhere_append rfl before after

theorem rows_of_unbroken {cs : List Char} (unbroken : '\n' ∉ cs) : rows cs = [cs] :=
  splitWhere_of_none fun _ member => beq_eq_false_iff_ne.mpr fun feed => unbroken (feed ▸ member)

/-- Line feeds before all lines but the first stand where those after all but the last do. -/
theorem feeds_before_eq_after (first : List Char) (rest : List (List Char)) :
    first ++ rest.flatMap ('\n' :: ·) ++ ['\n'] = (first :: rest).flatMap (· ++ ['\n']) := by
  induction rest generalizing first with
  | nil => simp
  | cons line rest ih =>
    rw [List.flatMap_cons, List.flatMap_cons, ← ih line]
    simp

/-- The first row ends where the first line feed is. -/
theorem rows_eq_cons (cs : List Char) :
    ∃ others, rows cs = cs.takeWhile (· != '\n') :: others := by
  induction cs with
  | nil => exact ⟨[], rfl⟩
  | cons c cs ih =>
    obtain ⟨others, first⟩ := ih
    unfold rows at first ⊢
    by_cases feed : c = '\n'
    · exact ⟨splitWhere (· == '\n') cs, by simp [splitWhere, feed]⟩
    · exact ⟨others, by simp [splitWhere, feed, first]⟩

theorem rows_flatMap_feed_append (before : List (List Char))
    (unbroken : ∀ line ∈ before, '\n' ∉ line) (after : List Char) :
    rows (before.flatMap (· ++ ['\n']) ++ after) = before ++ rows after := by
  induction before with
  | nil => rfl
  | cons line before ih =>
    have later := ih fun other member => unbroken other (by simp [member])
    rw [List.flatMap_cons, List.append_assoc, List.append_assoc, List.singleton_append,
      rows_append_feed, later, rows_of_unbroken (unbroken line (by simp))]
    rfl

theorem rows_flatMap_feed (lines : List (List Char)) (unbroken : ∀ line ∈ lines, '\n' ∉ line) :
    rows (lines.flatMap (· ++ ['\n'])) = lines ++ [[]] := by
  simpa [rows, splitWhere] using rows_flatMap_feed_append lines unbroken []

/-- What stands before the first line feed only makes the first row longer. -/
theorem rows_append {before : List Char} (unbroken : '\n' ∉ before) (after : List Char) :
    ∃ first others, rows after = first :: others ∧
      rows (before ++ after) = (before ++ first) :: others := by
  induction before with
  | nil =>
    obtain ⟨others, split⟩ := rows_eq_cons after
    exact ⟨_, others, split, split⟩
  | cons c before ih =>
    obtain ⟨first, others, split, longer⟩ := ih fun member => unbroken (by simp [member])
    have other : c ≠ '\n' := fun same => unbroken (by simp [same])
    refine ⟨first, others, split, ?_⟩
    unfold rows at longer ⊢
    simp [splitWhere, other, longer]

/-- What follows a text without a feed after it makes the last row of it longer. -/
theorem rows_append_rows (before after : List Char) : ∃ start last first rest,
    rows before = start ++ [last] ∧ rows after = first :: rest ∧
      rows (before ++ after) = start ++ (last ++ first) :: rest := by
  induction before with
  | nil =>
    obtain ⟨rest, split⟩ := rows_eq_cons after
    exact ⟨[], [], _, rest, rfl, split, split⟩
  | cons c before ih =>
    obtain ⟨start, last, first, rest, ended, begun, joined⟩ := ih
    unfold rows at ended joined ⊢
    by_cases feed : c = '\n'
    · exact ⟨[] :: start, last, first, rest, by simp [splitWhere, feed, ended], begun,
        by simp [splitWhere, feed, joined]⟩
    · cases start with
      | nil =>
        exact ⟨[], c :: last, first, rest, by simp [splitWhere, feed, ended], begun,
          by simp [splitWhere, feed, joined]⟩
      | cons row start =>
        exact ⟨(c :: row) :: start, last, first, rest, by simp [splitWhere, feed, ended], begun,
          by simp [splitWhere, feed, joined]⟩

theorem withoutReturn_of_whole {line : List Char} (whole : Whole line) :
    withoutReturn line = line :=
  if_neg whole.2

theorem map_withoutReturn {written : List (List Char)} (whole : ∀ line ∈ written, Whole line) :
    written.map withoutReturn = written :=
  (List.map_congr_left fun line member => withoutReturn_of_whole (whole line member)).trans
    (List.map_id written)

theorem lines_of_flatMap_feed {text : String} {written : List (List Char)}
    (shape : text.toList = written.flatMap (· ++ ['\n'])) (whole : ∀ line ∈ written, Whole line) :
    lines text = written := by
  unfold lines
  rw [shape, rows_flatMap_feed written fun line member => (whole line member).1]
  simp [map_withoutReturn whole]

theorem withoutReturn_append (before : List Char) {after : List Char} (more : after ≠ []) :
    withoutReturn (before ++ after) = before ++ withoutReturn after := by
  obtain ⟨rest, c, rfl⟩ := (List.eq_nil_or_concat after).resolve_left more
  rw [List.concat_eq_append, ← List.append_assoc, withoutReturn, withoutReturn,
    List.getLast?_concat, List.getLast?_concat, List.dropLast_concat, List.dropLast_concat]
  split
  next => rfl
  next => rw [List.append_assoc]

/-- The lines around one that may hold feeds are read as they were written. -/
theorem lines_around {text : String} {before after : List (List Char)} {inner : List Char}
    (shape : text.toList = (before ++ inner :: after).flatMap (· ++ ['\n']))
    (whole : ∀ line ∈ before ++ after, Whole line) :
    lines text = before ++ (rows inner).map withoutReturn ++ after := by
  have first : ∀ line ∈ before, Whole line := fun line member => whole line (by simp [member])
  have last : ∀ line ∈ after, Whole line := fun line member => whole line (by simp [member])
  have split : rows text.toList = before ++ rows inner ++ after ++ [[]] := by
    rw [shape, List.flatMap_append, List.flatMap_cons,
      rows_flatMap_feed_append before fun line member => (first line member).1,
      List.append_assoc, List.singleton_append, rows_append_feed,
      rows_flatMap_feed after fun line member => (last line member).1]
    simp only [List.append_assoc]
  unfold lines
  rw [split, List.dropLast_concat, List.getLast?_concat]
  simp [map_withoutReturn first, map_withoutReturn last]

/-! ## Blanks at the ends of a line -/

def trimmed (line : List Char) : List Char := trimEnd (trimStart line)

theorem trimStart_append {lead : List Char} (visible : trimStart lead ≠ []) (rest : List Char) :
    trimStart (lead ++ rest) = trimStart lead ++ rest := by
  unfold trimStart at visible ⊢
  rw [List.dropWhile_append]
  simp [visible]

theorem trimEnd_begins (cs : List Char) : trimEnd cs <+: cs := by
  unfold trimEnd
  rw [← List.reverse_suffix, List.reverse_reverse]
  exact List.dropWhile_suffix _

theorem trimEnd_append_visible {c : Char} (visible : Unicode.isBlank c = false) (cs : List Char) :
    trimEnd (cs ++ [c]) = cs ++ [c] := by
  simp [trimEnd, visible]

/-- What follows a beginning of a line, the blanks around the line aside. -/
def after? (start line : List Char) : Option (List Char) :=
  if start <+: trimmed line then some ((trimmed line).drop start.length) else none

/-- Neither of two texts begins with the other, blanks before the second aside. -/
def clash (start lead : List Char) : Bool :=
  !start.isPrefixOf (trimStart lead) && !(trimStart lead).isPrefixOf start

theorem after?_eq_none {start lead : List Char} (apart : clash start lead = true)
    (rest : List Char) : after? start (lead ++ rest) = none := by
  simp only [clash, Bool.and_eq_true, Bool.not_eq_true', ← Bool.not_eq_true,
    List.isPrefixOf_iff_prefix] at apart
  have visible : trimStart lead ≠ [] := fun none => apart.2 (by simp [none])
  apply if_neg
  intro found
  have begins := found.trans (trimEnd_begins _)
  rw [trimStart_append visible] at begins
  rcases List.prefix_or_prefix_of_prefix begins (List.prefix_append _ rest) with short | long
  · exact apart.1 short
  · exact apart.2 long

/-- The blanks at the front go, and there are none at the end. -/
theorem trimmed_append {lead : List Char} (visible : trimStart lead ≠ []) {c : Char}
    (ends : Unicode.isBlank c = false) (rest : List Char) :
    trimmed (lead ++ (rest ++ [c])) = trimStart lead ++ (rest ++ [c]) := by
  rw [trimmed, trimStart_append visible, ← List.append_assoc, trimEnd_append_visible ends]

theorem after?_eq_some {start lead : List Char} (begins : trimStart lead = start)
    (visible : start ≠ []) {c : Char} (ends : Unicode.isBlank c = false) (rest : List Char) :
    after? start (lead ++ (rest ++ [c])) = some (rest ++ [c]) := by
  have whole := trimmed_append (begins ▸ visible) ends rest
  rw [begins] at whole
  rw [after?, whole, if_pos (List.prefix_append _ _), List.drop_left]

end ServerForge.Text
