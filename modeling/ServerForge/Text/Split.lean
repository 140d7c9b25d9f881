import ServerForge.Unicode.Blank

/-! Cutting a text at separators and trimming blanks from its ends. -/
namespace ServerForge.Text

/-- The pieces between the characters that satisfy `p`, empty pieces included. -/
def splitWhere (p : Char → Bool) : List Char → List (List Char)
  | [] => [[]]
  | c :: cs =>
    if p c then [] :: splitWhere p cs
    else match splitWhere p cs with
      | [] => [[c]]
      | piece :: pieces => (c :: piece) :: pieces

theorem splitWhere_ne_nil (p : Char → Bool) (cs : List Char) : splitWhere p cs ≠ [] := by
  cases cs with
  | nil => simp [splitWhere]
  | cons c cs =>
    simp only [splitWhere]
    split
    · simp
    · split <;> simp

/-- A separator cuts the text into two that are split on their own. -/
theorem splitWhere_append {p : Char → Bool} {c : Char} (h : p c = true) (before after : List Char) :
    splitWhere p (before ++ c :: after) = splitWhere p before ++ splitWhere p after := by
  induction before with
  | nil => simp [splitWhere, h]
  | cons d before ih =>
    simp only [List.cons_append, splitWhere, ih]
    split
    · rfl
    · cases pieces : splitWhere p before with
      | nil => exact absurd pieces (splitWhere_ne_nil p before)
      | cons first rest => rfl

/-- A text without separators is one piece. -/
theorem splitWhere_of_none {p : Char → Bool} {cs : List Char} (none : ∀ c ∈ cs, p c = false) :
    splitWhere p cs = [cs] := by
  induction cs with
  | nil => rfl
  | cons c cs ih =>
    have rest : splitWhere p cs = [cs] := ih fun d member => none d (by simp [member])
    simp [splitWhere, none c (by simp), rest]

/-- Pieces without separators are what their joined text splits into. -/
theorem splitWhere_intercalate {p : Char → Bool} {c : Char} (h : p c = true)
    {pieces : List (List Char)} (nonempty : pieces ≠ [])
    (none : ∀ piece ∈ pieces, ∀ d ∈ piece, p d = false) :
    splitWhere p ([c].intercalate pieces) = pieces := by
  induction pieces with
  | nil => exact absurd rfl nonempty
  | cons piece pieces ih =>
    have first : splitWhere p piece = [piece] := splitWhere_of_none (none piece (by simp))
    cases pieces with
    | nil => simpa using first
    | cons second rest =>
      rw [List.intercalate_cons_cons, List.append_assoc, List.singleton_append,
        splitWhere_append h, first,
        ih (by simp) fun later member => none later (List.mem_cons_of_mem _ member)]
      rfl

/-- Joined again by the only separator there is, the pieces are the text. -/
theorem intercalate_splitWhere {p : Char → Bool} {c : Char} (only : ∀ d, p d = true → d = c)
    (cs : List Char) : [c].intercalate (splitWhere p cs) = cs := by
  induction cs with
  | nil => simp [splitWhere]
  | cons d cs ih =>
    obtain ⟨first, rest, pieces⟩ := List.exists_cons_of_ne_nil (splitWhere_ne_nil p cs)
    rw [pieces] at ih
    by_cases separator : p d = true
    · rw [splitWhere, if_pos separator, pieces, List.intercalate_cons_cons, ih, only d separator]
      rfl
    · rw [splitWhere, if_neg separator, pieces]
      cases rest with
      | nil => simpa using ih
      | cons second rest =>
        simp only [List.intercalate_cons_cons, List.append_assoc, List.cons_append] at ih ⊢
        rw [ih]

/-- No separator is left in a piece. -/
theorem not_separator_of_mem_splitWhere {p : Char → Bool} {cs piece : List Char} {c : Char}
    (split : piece ∈ splitWhere p cs) (member : c ∈ piece) : p c = false := by
  induction cs generalizing piece with
  | nil =>
    have empty : piece = [] := by simpa [splitWhere] using split
    simp [empty] at member
  | cons d cs ih =>
    unfold splitWhere at split
    by_cases separator : p d = true
    · rw [if_pos separator, List.mem_cons] at split
      rcases split with rfl | later
      · simp at member
      · exact ih later member
    · rw [if_neg separator] at split
      cases pieces : splitWhere p cs with
      | nil => exact absurd pieces (splitWhere_ne_nil p cs)
      | cons first rest =>
        rw [pieces] at split ih
        rcases List.mem_cons.mp split with rfl | later
        · rcases List.mem_cons.mp member with rfl | inside
          · simpa using separator
          · exact ih (by simp) inside
        · exact ih (by simp [later]) member

def trimStart (cs : List Char) : List Char := cs.dropWhile Unicode.isBlank

def trimEnd (cs : List Char) : List Char := (cs.reverse.dropWhile Unicode.isBlank).reverse

/-- The text without the blanks at its two ends. -/
def trim (text : String) : String := String.ofList (trimEnd (trimStart text.toList))

/-- A text is blank when nothing is left of it after trimming. -/
def isBlank (text : String) : Bool := text.toList.all Unicode.isBlank

/-- The parts of a comma-separated text, trimmed, the empty ones left out. -/
def splitList (text : String) : List String :=
  ((splitWhere (· == ',') text.toList).map fun piece =>
    String.ofList (trimEnd (trimStart piece))).filter (· != "")

end ServerForge.Text
