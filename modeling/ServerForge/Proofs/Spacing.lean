import ServerForge.Proofs.Literals

/-! One printer for both printed forms: they differ in the space between the parts only. -/
namespace ServerForge.Json

/-- The space before an entry at a level, or before the bracket that closes the level, and the
space after a colon. -/
structure Spacing where
  start : Nat → List Char
  colon : List Char
  start_space : ∀ level, ∀ c ∈ start level, isSpace c = true
  colon_space : ∀ c ∈ colon, isSpace c = true

def Spacing.compact : Spacing where
  start _ := []
  colon := []
  start_space := by simp
  colon_space := by simp

def Spacing.indented : Spacing where
  start := lineBreak
  colon := [' ']
  start_space level c member := by
    rcases List.mem_cons.mp member with rfl | blank
    · rfl
    · rw [List.eq_of_mem_replicate blank]
      rfl
  colon_space := by simp [isSpace]

@[simp] theorem Spacing.indented_start (level : Nat) :
    Spacing.indented.start level = lineBreak level := rfl

@[simp] theorem Spacing.indented_colon : Spacing.indented.colon = [' '] := rfl

mutual

def printed (s : Spacing) (level : Nat) : Json → List Char
  | .null => ['n', 'u', 'l', 'l']
  | .bool value => boolChars value
  | .num value => value.chars
  | .str value => quoteChars value.toList
  | .arr [] => ['[', ']']
  | .arr (item :: items) =>
    '[' :: s.start (level + 1) ++ printed s (level + 1) item ++ printedItems s (level + 1) items ++
      s.start level ++ [']']
  | .obj [] => ['\x7b', '\x7d']
  | .obj ((key, value) :: members) =>
    '\x7b' :: s.start (level + 1) ++ quoteChars key.toList ++ ':' :: s.colon ++
      printed s (level + 1) value ++ printedMembers s (level + 1) members ++
      s.start level ++ ['\x7d']

/-- Items that are not the first: each one after a comma. -/
def printedItems (s : Spacing) (level : Nat) : List Json → List Char
  | [] => []
  | item :: items => ',' :: s.start level ++ printed s level item ++ printedItems s level items

def printedMembers (s : Spacing) (level : Nat) : List (String × Json) → List Char
  | [] => []
  | (key, value) :: members =>
    ',' :: s.start level ++ quoteChars key.toList ++ ':' :: s.colon ++ printed s level value ++
      printedMembers s level members

end

/-! Without the comma before the first, the printed items are those of either form. -/

theorem comma_printedItems (s : Spacing) (level : Nat) (item : Json) (items : List Json) :
    ',' :: (printedItems s level (item :: items)).tail = printedItems s level (item :: items) := rfl

theorem comma_printedMembers (s : Spacing) (level : Nat) (member : String × Json)
    (members : List (String × Json)) :
    ',' :: (printedMembers s level (member :: members)).tail =
      printedMembers s level (member :: members) := rfl

mutual

theorem compactChars_eq (level : Nat) : ∀ v : Json, compactChars v = printed .compact level v
  | .null | .bool _ | .num _ | .str _ | .arr [] | .obj [] => by
    simp [compactChars, printed, compactItems, compactMembers]
  | .arr (item :: items) => by
    rw [compactChars, printed, compactItems_eq (level + 1) (item :: items)]
    simp [printedItems, Spacing.compact]
  | .obj ((key, value) :: members) => by
    rw [compactChars, printed, compactMembers_eq (level + 1) ((key, value) :: members)]
    simp [printedMembers, Spacing.compact]

theorem compactItems_eq (level : Nat) :
    ∀ items : List Json, compactItems items = (printedItems .compact level items).tail
  | [] => rfl
  | [item] => by
    simp [compactItems, printedItems, compactChars_eq level item, Spacing.compact]
  | item :: next :: items => by
    rw [compactItems, compactItems_eq level (next :: items), comma_printedItems,
      compactChars_eq level item]
    · rfl
    · simp

theorem compactMembers_eq (level : Nat) :
    ∀ members : List (String × Json),
      compactMembers members = (printedMembers .compact level members).tail
  | [] => rfl
  | [(key, value)] => by
    simp [compactMembers, printedMembers, compactChars_eq level value, Spacing.compact]
  | (key, value) :: next :: members => by
    rw [compactMembers, compactMembers_eq level (next :: members), comma_printedMembers,
      compactChars_eq level value]
    · simp [printedMembers, Spacing.compact]
    · simp

end

mutual

theorem prettyChars_eq (level : Nat) : ∀ v : Json, prettyChars level v = printed .indented level v
  | .null | .bool _ | .num _ | .str _ | .arr [] | .obj [] => by
    simp [prettyChars, printed]
  | .arr (item :: items) => by
    rw [prettyChars, printed, prettyItems_eq (level + 1) (item :: items)]
    simp [printedItems, Spacing.indented]
  | .obj ((key, value) :: members) => by
    rw [prettyChars, printed, prettyMembers_eq (level + 1) ((key, value) :: members)]
    simp [printedMembers, Spacing.indented]

theorem prettyItems_eq (level : Nat) :
    ∀ items : List Json, prettyItems level items = (printedItems .indented level items).tail
  | [] => rfl
  | [item] => by
    simp [prettyItems, printedItems, prettyChars_eq level item, Spacing.indented]
  | item :: next :: items => by
    rw [prettyItems, prettyItems_eq level (next :: items), comma_printedItems,
      prettyChars_eq level item]
    · rfl
    · simp

theorem prettyMembers_eq (level : Nat) :
    ∀ members : List (String × Json),
      prettyMembers level members = (printedMembers .indented level members).tail
  | [] => rfl
  | [(key, value)] => by
    simp [prettyMembers, printedMembers, prettyChars_eq level value, Spacing.indented]
  | (key, value) :: next :: members => by
    rw [prettyMembers, prettyMembers_eq level (next :: members), comma_printedMembers,
      prettyChars_eq level value]
    · simp [printedMembers, Spacing.indented]
    · simp

end

end ServerForge.Json
