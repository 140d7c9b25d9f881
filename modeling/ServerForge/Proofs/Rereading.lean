import ServerForge.Proofs.Decimals
import ServerForge.Proofs.Spacing
import ServerForge.Proofs.TextOrder

/-! What is printed is read again. Main statement: either printed form of a value is read to its
end, and gives the value back, but for floating-point numbers and the order of members. -/
namespace ServerForge.Json

/-! ## Numbers -/

/-- Whether a number is one of those that reading gives: 64 bits, or a float of the format. -/
def Number.inRange : Number → Bool
  | .int value => -2 ^ 63 ≤ value && value < 2 ^ 64
  | .float x => x.significand < 2 ^ 53 && x.exponent ≤ Binary64.greatestExponent

/-- The number that is read for the text of a number: a float may lose its last digits. -/
def Number.reread : Number → Number
  | .int value => .int value
  | .float x =>
    match readNumber x.negative (Decimal.magnitudeText x) with
    | .ok (number, _) => number
    | .error _ => .float x

def signChars (negative : Bool) : List Char := if negative then ['-'] else []

/-- A sign and a text that is read as a number, whatever comes after it. -/
def NumberText (cs : List Char) (number : Number) : Prop :=
  ∃ negative magnitude, cs = signChars negative ++ magnitude ∧
    ∀ rest, NumberEnds rest → readNumber negative (magnitude ++ rest) = .ok (number, rest)

theorem numberEnds_nil : NumberEnds [] := by simp [NumberEnds]

theorem wholeNumber_negative {n : Nat} (positive : 0 < n) (fits : n ≤ 2 ^ 63) (rest : List Char) :
    wholeNumber true n rest = .ok (.int (-n)) := by
  unfold wholeNumber
  rw [if_pos rfl, if_pos ⟨positive, fits⟩]
  rfl

theorem numberText_int {value : Int} (inRange : (Number.int value).inRange = true) :
    NumberText (Number.int value).chars (.int value) := by
  simp only [Number.inRange, Bool.and_eq_true, decide_eq_true_eq] at inRange
  obtain ⟨low, high⟩ := inRange
  unfold Number.chars
  by_cases down : value < 0
  · refine ⟨true, Text.digits value.natAbs, by simp [signChars, down], fun rest ends => ?_⟩
    have fits : value.natAbs < significandBound := by
      rw [significandBound_eq]
      omega
    rw [readNumber_digits true fits ends, wholeNumber_negative (by omega) (by omega),
      show -(value.natAbs : Int) = value by omega]
    rfl
  · refine ⟨false, Text.digits value.natAbs, by simp [signChars, down], fun rest ends => ?_⟩
    have fits : value.natAbs < significandBound := by
      rw [significandBound_eq]
      omega
    have same : wholeNumber false value.natAbs rest = .ok (.int value) := by
      unfold wholeNumber
      rw [if_neg (by decide), show (value.natAbs : Int) = value by omega]
      rfl
    rw [readNumber_digits false fits ends, same]
    rfl

theorem numberText_float {x : Binary64} (inRange : (Number.float x).inRange = true) :
    NumberText (Number.float x).chars (Number.float x).reread := by
  simp only [Number.inRange, Bool.and_eq_true, decide_eq_true_eq] at inRange
  obtain ⟨y, _, read⟩ := Decimal.magnitudeText_read ⟨inRange.1, inRange.2⟩ x.negative
  have alone := read [] numberEnds_nil
  rw [List.append_nil] at alone
  refine ⟨x.negative, Decimal.magnitudeText x, ?_, ?_⟩
  · rw [Number.chars, Decimal.print_eq, signChars]
    split <;> rfl
  · rw [Number.reread, alone]
    exact read

theorem numberText {n : Number} (inRange : n.inRange = true) : NumberText n.chars n.reread := by
  cases n with
  | int value => exact numberText_int inRange
  | float x => exact numberText_float inRange

/-- A number begins with a digit. -/
theorem head_of_readNumber {negative : Bool} {cs : List Char} {read : Number × List Char}
    (found : readNumber negative cs = .ok read) :
    ∃ c tail, cs = c :: tail ∧ Text.isDigit c = true := by
  cases cs with
  | nil => cases found
  | cons c tail =>
    refine ⟨c, tail, rfl, ?_⟩
    by_contra other
    rw [readNumber, Bool.eq_false_iff.mpr other] at found
    cases found

/-! ## Space -/

theorem readValueWith_space {gather : Members → Members} {space : List Char}
    (blank : ∀ c ∈ space, isSpace c = true) (room : Nat) (cs : List Char) :
    readValueWith gather room (space ++ cs) = readValueWith gather room cs := by
  cases room with
  | zero => exact readValue_space blank 0 cs
  | succ room => rw [readValueWith, skipSpace_append blank, readValue_space blank, readValueWith]

theorem numberEnds_space {space rest : List Char} (blank : ∀ c ∈ space, isSpace c = true)
    (ends : NumberEnds rest) : NumberEnds (space ++ rest) := by
  cases space with
  | nil => exact ends
  | cons c space =>
    intro d head
    cases head
    have visible := blank c (by simp)
    simp only [isSpace, Bool.or_eq_true, beq_iff_eq] at visible
    obtain ((rfl | rfl) | rfl) | rfl := visible <;> decide

/-- A text that begins as a value does: not with space, a comma or a closing bracket. -/
def Opens (cs : List Char) : Prop :=
  ∃ c tail, cs = c :: tail ∧ isSpace c = false ∧ c ≠ ',' ∧ c ≠ ']'

theorem Opens.append {cs : List Char} (opens : Opens cs) (rest : List Char) :
    Opens (cs ++ rest) := by
  obtain ⟨c, tail, rfl, others⟩ := opens
  exact ⟨c, tail ++ rest, rfl, others⟩

theorem digit_opens {c : Char} (digit : Text.isDigit c = true) :
    isSpace c = false ∧ c ≠ ',' ∧ c ≠ ']' := by
  refine ⟨?_, ?_, ?_⟩
  · by_contra space
    simp only [isSpace, Bool.not_eq_false, Bool.or_eq_true, beq_iff_eq] at space
    obtain ((rfl | rfl) | rfl) | rfl := space <;> exact absurd digit (by decide)
  · rintro rfl
    exact absurd digit (by decide)
  · rintro rfl
    exact absurd digit (by decide)

theorem numberText_opens {cs : List Char} {n : Number} (text : NumberText cs n) : Opens cs := by
  obtain ⟨negative, magnitude, rfl, read⟩ := text
  cases negative with
  | true => exact ⟨'-', magnitude, rfl, by decide, by decide, by decide⟩
  | false =>
    have alone := read [] numberEnds_nil
    rw [List.append_nil] at alone
    obtain ⟨c, tail, rfl, digit⟩ := head_of_readNumber alone
    exact ⟨c, tail, rfl, digit_opens digit⟩

/-! ## Values -/

mutual

/-- The value that is read for the text of a value. -/
def reread : Json → Json
  | .num n => .num n.reread
  | .arr items => .arr (rereadItems items)
  | .obj members => object (rereadMembers members)
  | value => value

def rereadItems : List Json → List Json
  | [] => []
  | item :: items => reread item :: rereadItems items

def rereadMembers : List (String × Json) → Members
  | [] => []
  | (key, value) :: members => (key, reread value) :: rereadMembers members

end

mutual

/-- The value that is read where the members of objects are gathered in some way. -/
def rereadWith (gather : Members → Members) : Json → Json
  | .num n => .num n.reread
  | .arr items => .arr (rereadItemsWith gather items)
  | .obj members => .obj (gather (rereadMembersWith gather members))
  | value => value

def rereadItemsWith (gather : Members → Members) : List Json → List Json
  | [] => []
  | item :: items => rereadWith gather item :: rereadItemsWith gather items

def rereadMembersWith (gather : Members → Members) : List (String × Json) → Members
  | [] => []
  | (key, value) :: members => (key, rereadWith gather value) :: rereadMembersWith gather members

end

mutual

theorem rereadWith_insertAll : ∀ v : Json, rereadWith (insertAll · []) v = reread v
  | .null | .bool _ | .num _ | .str _ => rfl
  | .arr items => by rw [rereadWith, reread, rereadItemsWith_insertAll items]
  | .obj members => by rw [rereadWith, reread, object, rereadMembersWith_insertAll members]

theorem rereadItemsWith_insertAll :
    ∀ items : List Json, rereadItemsWith (insertAll · []) items = rereadItems items
  | [] => rfl
  | item :: items => by
    rw [rereadItemsWith, rereadItems, rereadWith_insertAll item, rereadItemsWith_insertAll items]

theorem rereadMembersWith_insertAll : ∀ members : List (String × Json),
    rereadMembersWith (insertAll · []) members = rereadMembers members
  | [] => rfl
  | (key, value) :: members => by
    rw [rereadMembersWith, rereadMembers, rereadWith_insertAll value,
      rereadMembersWith_insertAll members]

end

/-- Whether a value is nested no deeper than `room`, with all its numbers in range. -/
def fits : Nat → Json → Bool
  | _, .num n => n.inRange
  | room + 1, .arr items => items.all (fits room)
  | room + 1, .obj members => members.all fun member => fits room member.2
  | 0, .arr _ => false
  | 0, .obj _ => false
  | _, _ => true

theorem printed_opens (s : Spacing) (level : Nat) {room : Nat} {v : Json}
    (fitting : fits room v = true) : Opens (printed s level v) := by
  cases v with
  | null => exact ⟨'n', _, rfl, by decide⟩
  | bool value => cases value <;> exact ⟨_, _, rfl, by decide⟩
  | num n =>
    have inRange : n.inRange = true := by cases room <;> exact fitting
    rw [printed]
    exact numberText_opens (numberText inRange)
  | str value => exact ⟨'"', _, by rw [printed, quoteChars]; rfl, by decide⟩
  | arr items =>
    cases items with
    | nil => exact ⟨'[', _, by rw [printed], by decide⟩
    | cons item items => exact ⟨'[', _, by rw [printed]; simp; rfl, by decide⟩
  | obj members =>
    cases members with
    | nil => exact ⟨'{', _, by rw [printed], by decide⟩
    | cons member members => exact ⟨'{', _, by rw [printed]; simp; rfl, by decide⟩

/-! ### From one entry to the next -/

theorem nextItem_first {cs : List Char} (opens : Opens cs) {space : List Char}
    (blank : ∀ c ∈ space, isSpace c = true) : nextItem true (space ++ cs) = .ok (some cs) := by
  obtain ⟨c, tail, rfl, visible, comma, close⟩ := opens
  unfold nextItem
  rw [skipSpace_append blank, skipSpace_visible visible]
  split <;> simp_all [pure, Except.pure]

theorem nextItem_comma {cs : List Char} (opens : Opens cs) {space : List Char}
    (blank : ∀ c ∈ space, isSpace c = true) :
    nextItem false (',' :: (space ++ cs)) = .ok (some cs) := by
  obtain ⟨c, tail, rfl, visible, comma, close⟩ := opens
  unfold nextItem
  rw [skipSpace_visible (by decide)]
  simp only [Bool.false_eq_true, if_false, skipSpace_append blank, skipSpace_visible visible]
  split <;> simp_all [pure, Except.pure]

theorem nextItem_close {space : List Char} (blank : ∀ c ∈ space, isSpace c = true) (first : Bool)
    (rest : List Char) : nextItem first (space ++ ']' :: rest) = .ok none := by
  unfold nextItem
  rw [skipSpace_append blank, skipSpace_visible (by decide)]
  rfl

theorem closeList_close {space : List Char} (blank : ∀ c ∈ space, isSpace c = true)
    (rest : List Char) : closeList (space ++ ']' :: rest) = .ok ((), rest) := by
  unfold closeList
  rw [skipSpace_append blank, skipSpace_visible (by decide)]
  rfl

theorem nextKey_first {space : List Char} (blank : ∀ c ∈ space, isSpace c = true)
    (rest : List Char) : nextKey true (space ++ '"' :: rest) = .ok (some rest) := by
  unfold nextKey
  rw [skipSpace_append blank, skipSpace_visible (by decide)]
  rfl

theorem nextKey_comma {space : List Char} (blank : ∀ c ∈ space, isSpace c = true)
    (rest : List Char) : nextKey false (',' :: (space ++ '"' :: rest)) = .ok (some rest) := by
  unfold nextKey
  rw [skipSpace_visible (by decide)]
  simp only [Bool.false_eq_true, if_false, skipSpace_append blank]
  rw [skipSpace_visible (by decide)]
  rfl

theorem nextKey_close {space : List Char} (blank : ∀ c ∈ space, isSpace c = true) (first : Bool)
    (rest : List Char) : nextKey first (space ++ '}' :: rest) = .ok none := by
  unfold nextKey
  rw [skipSpace_append blank, skipSpace_visible (by decide)]
  rfl

theorem closeObject_close {space : List Char} (blank : ∀ c ∈ space, isSpace c = true)
    (rest : List Char) : closeObject (space ++ '}' :: rest) = .ok ((), rest) := by
  unfold closeObject
  rw [skipSpace_append blank, skipSpace_visible (by decide)]
  rfl

/-! ### The entries of one level -/

section

variable {s : Spacing} {gather : Members → Members} {room : Nat}

/-- Further entries begin with a comma; without any, the level is closed. -/
theorem ends_of_entries {entries : List Char} (comma : ∀ c ∈ entries.head?, c = ',')
    {level : List Char} (closed : NumberEnds level) : NumberEnds (entries ++ level) := by
  cases entries with
  | nil => exact closed
  | cons c entries =>
    obtain rfl := comma c rfl
    intro d head
    cases head
    decide

theorem ends_of_items (level outer : Nat) (items : List Json) (rest : List Char) :
    NumberEnds (printedItems s level items ++ (s.start outer ++ ']' :: rest)) := by
  refine ends_of_entries ?_ (numberEnds_space (s.start_space outer) ?_)
  · cases items <;> simp [printedItems]
  · intro c head
    cases head
    decide

theorem ends_of_members (level outer : Nat) (members : List (String × Json)) (rest : List Char) :
    NumberEnds (printedMembers s level members ++ (s.start outer ++ '}' :: rest)) := by
  refine ends_of_entries ?_ (numberEnds_space (s.start_space outer) ?_)
  · cases members <;> simp [printedMembers]
  · intro c head
    cases head
    decide

/-- The reader takes in a printed value and gives one of the things that it stands for. -/
def ReadsPrinted {α : Type} (s : Spacing) (room : Nat) (read : Reader α) (gives : Json → α → Prop) :
    Prop :=
  ∀ level v a rest, gives v a → fits room v = true → NumberEnds rest →
    read (printed s level v ++ rest) = .ok (a, rest)

/-- Values of the level below are read. -/
def ReadsBelow (s : Spacing) (gather : Members → Members) (room : Nat) : Prop :=
  ∀ level v rest, fits room v = true → NumberEnds rest →
    readValueWith gather room (printed s level v ++ rest) = .ok (rereadWith gather v, rest)

theorem ReadsBelow.readsPrinted (below : ReadsBelow s gather room) :
    ReadsPrinted s room (readValueWith gather room) fun v a => a = rereadWith gather v := by
  rintro level v _ rest rfl fitting ends
  exact below level v rest fitting ends

theorem forall₂_rereadItemsWith (gather : Members → Members) (items : List Json) :
    List.Forall₂ (fun v a => a = rereadWith gather v) items (rereadItemsWith gather items) := by
  induction items with
  | nil => exact .nil
  | cons item items ih => exact .cons rfl ih

section

variable {α : Type} {item : Reader α} {gives : Json → α → Prop}

theorem readItems_printed (reads : ReadsPrinted s room item gives) (level outer : Nat)
    {items : List Json} {values : List α} (given : List.Forall₂ gives items values)
    (fitting : ∀ v ∈ items, fits room v = true) {bound : Nat} (enough : items.length < bound)
    (rest : List Char) :
    readItems item bound false (printedItems s level items ++ (s.start outer ++ ']' :: rest)) =
      .ok (values, s.start outer ++ ']' :: rest) := by
  induction given generalizing bound with
  | nil =>
    obtain ⟨bound, rfl⟩ := Nat.exists_eq_add_one.mpr enough
    rw [printedItems, List.nil_append, readItems, nextItem_close (s.start_space outer)]
    rfl
  | @cons v value items values first others ih =>
    obtain ⟨bound, rfl⟩ := Nat.exists_eq_add_one.mpr (Nat.zero_lt_of_lt enough)
    have here := fitting v (by simp)
    have opens := (printed_opens s level here).append
      (printedItems s level items ++ (s.start outer ++ ']' :: rest))
    have read := reads level v value _ first here (ends_of_items (s := s) level outer items rest)
    have later := ih (fun other member => fitting other (by simp [member]))
      (Nat.lt_of_succ_lt_succ enough)
    have text : printedItems s level (v :: items) ++ (s.start outer ++ ']' :: rest) =
        ',' :: (s.start level ++ (printed s level v ++
          (printedItems s level items ++ (s.start outer ++ ']' :: rest)))) := by
      simp [printedItems]
    rw [text, readItems, nextItem_comma opens (s.start_space level)]
    simp only [bind, Except.bind, read, later]
    rfl

end

theorem readColon_colon (rest : List Char) : readColon (':' :: rest) = .ok ((), rest) := by
  unfold readColon
  rw [skipSpace_visible (by decide)]
  rfl

/-- The key and the value of a member, after the quote that opens the key, and what follows. -/
theorem readMember_printed (below : ReadsBelow s gather room) (level : Nat) (key : String)
    {v : Json} (fitting : fits room v = true) {rest left : List Char} (ends : NumberEnds rest)
    {bound : Nat} {entries : Members}
    (later : readEntries (readValueWith gather room) bound false rest = .ok (entries, left)) :
    (do
      let (key, rest) ← readString (key.toList.flatMap escapeChar ++
        '"' :: ':' :: (s.colon ++ (printed s level v ++ rest)))
      let ((), rest) ← readColon rest
      let (v, rest) ← readValueWith gather room rest
      let (entries, rest) ← readEntries (readValueWith gather room) bound false rest
      return ((String.ofList key, v) :: entries, rest)) =
    (.ok ((key, rereadWith gather v) :: entries, left) : Except Fault (Members × List Char)) := by
  simp only [readString_escaped, bind, Except.bind, readColon_colon,
    readValueWith_space s.colon_space, below level v rest fitting ends, String.ofList_toList, later]
  rfl

theorem readEntries_printed (below : ReadsBelow s gather room) (level outer : Nat)
    {members : List (String × Json)} (fitting : ∀ member ∈ members, fits room member.2 = true)
    {bound : Nat} (enough : members.length < bound) (rest : List Char) :
    readEntries (readValueWith gather room) bound false
        (printedMembers s level members ++ (s.start outer ++ '}' :: rest)) =
      .ok (rereadMembersWith gather members, s.start outer ++ '}' :: rest) := by
  induction members generalizing bound with
  | nil =>
    obtain ⟨bound, rfl⟩ := Nat.exists_eq_add_one.mpr enough
    rw [printedMembers, List.nil_append, readEntries, nextKey_close (s.start_space outer)]
    rfl
  | cons member members ih =>
    obtain ⟨key, v⟩ := member
    obtain ⟨bound, rfl⟩ := Nat.exists_eq_add_one.mpr (Nat.zero_lt_of_lt enough)
    have here := fitting (key, v) (by simp)
    have later := ih (fun other inside => fitting other (by simp [inside]))
      (Nat.lt_of_succ_lt_succ enough)
    have text : printedMembers s level ((key, v) :: members) ++ (s.start outer ++ '}' :: rest) =
        ',' :: (s.start level ++ '"' :: (key.toList.flatMap escapeChar ++
          '"' :: ':' :: (s.colon ++ (printed s level v ++
            (printedMembers s level members ++ (s.start outer ++ '}' :: rest)))))) := by
      simp [printedMembers, quoteChars]
    rw [text, readEntries, nextKey_comma (s.start_space level)]
    exact readMember_printed below level key here (ends_of_members level outer members rest) later

theorem length_printedItems (level : Nat) (items : List Json) :
    items.length ≤ (printedItems s level items).length := by
  induction items with
  | nil => exact Nat.zero_le _
  | cons item items ih =>
    simp only [printedItems, List.length_cons, List.length_append]
    omega

theorem length_printedMembers (level : Nat) (members : List (String × Json)) :
    members.length ≤ (printedMembers s level members).length := by
  induction members with
  | nil => exact Nat.zero_le _
  | cons member members ih =>
    simp only [printedMembers, List.length_cons, List.length_append]
    omega

theorem readListBody_printed {α : Type} {item : Reader α} {gives : Json → α → Prop}
    (reads : ReadsPrinted s room item gives) (level outer : Nat) {v : Json} {items : List Json}
    {values : List α} (given : List.Forall₂ gives (v :: items) values)
    (fitting : ∀ other ∈ v :: items, fits room other = true) (rest : List Char) :
    readListBody item (s.start level ++ (printed s level v ++
        (printedItems s level items ++ (s.start outer ++ ']' :: rest)))) = .ok (values, rest) := by
  cases given with
  | @cons _ value _ values first others =>
    have here := fitting v (by simp)
    have opens := (printed_opens s level here).append
      (printedItems s level items ++ (s.start outer ++ ']' :: rest))
    have read := reads level v value _ first here (ends_of_items (s := s) level outer items rest)
    have enough : items.length < (s.start level ++ (printed s level v ++
        (printedItems s level items ++ (s.start outer ++ ']' :: rest)))).length := by
      have count := length_printedItems (s := s) level items
      simp only [List.length_append, List.length_cons]
      omega
    have later := readItems_printed reads level outer others
      (fun other member => fitting other (by simp [member])) enough rest
    rw [readListBody, readItems, nextItem_first opens (s.start_space level)]
    simp only [bind, Except.bind, pure, Except.pure, read, later,
      closeList_close (s.start_space outer)]

theorem readEntriesBody_printed (below : ReadsBelow s gather room) (level outer : Nat)
    {key : String} {v : Json} {members : List (String × Json)}
    (fitting : ∀ member ∈ (key, v) :: members, fits room member.2 = true) (rest : List Char) :
    readEntriesBody (readValueWith gather room) (s.start level ++ '"' ::
        (key.toList.flatMap escapeChar ++ '"' :: ':' :: (s.colon ++ (printed s level v ++
          (printedMembers s level members ++ (s.start outer ++ '}' :: rest)))))) =
      .ok (rereadMembersWith gather ((key, v) :: members), rest) := by
  have here := fitting (key, v) (by simp)
  have enough : members.length < (s.start level ++ '"' :: (key.toList.flatMap escapeChar ++
      '"' :: ':' :: (s.colon ++ (printed s level v ++
        (printedMembers s level members ++ (s.start outer ++ '}' :: rest)))))).length := by
    have count := length_printedMembers (s := s) level members
    simp only [List.length_append, List.length_cons]
    omega
  have later := readEntries_printed below level outer
    (fun other inside => fitting other (by simp [inside])) enough rest
  have all := readMember_printed below level key here
    (ends_of_members level outer members rest) later
  rw [readEntriesBody, readEntries, nextKey_first (s.start_space level)]
  simp only [bind, Except.bind, pure, Except.pure] at all ⊢
  rw [all]
  simp only [closeObject_close (s.start_space outer)]
  rfl

end

theorem readValue_digit (room : Nat) {c : Char} (digit : Text.isDigit c = true) (cs : List Char) :
    readValue room (c :: cs) =
      (readNumber false (c :: cs)).map fun read => (.num read.1, read.2) := by
  rw [readValue, skipSpace_visible (digit_opens digit).1]
  split
  case h_1 => contradiction
  case h_9 same =>
    cases same
    rw [if_pos digit]
    cases readNumber false (c :: cs) <;> rfl
  all_goals
    rename_i same
    cases same
    exact absurd digit (by decide)

section

variable (gather : Members → Members) (room : Nat)

/-- Only objects are gathered, and they stand behind brackets. -/
theorem readValueWith_visible {c : Char} (visible : isSpace c = false) (list : c ≠ '[')
    (object : c ≠ '{') (cs : List Char) :
    readValueWith gather room (c :: cs) = readValue room (c :: cs) := by
  cases room with
  | zero => rfl
  | succ room =>
    rw [readValueWith, skipSpace_visible visible]
    split <;> simp_all

theorem readValueWith_number {n : Number} (inRange : n.inRange = true) {rest : List Char}
    (ends : NumberEnds rest) :
    readValueWith gather room (n.chars ++ rest) = .ok (.num n.reread, rest) := by
  obtain ⟨negative, magnitude, text, read⟩ := numberText inRange
  rw [text, List.append_assoc]
  have found := read rest ends
  cases negative with
  | true =>
    change readValueWith gather room ('-' :: (magnitude ++ rest)) = _
    rw [readValueWith_visible gather room (by decide) (by decide) (by decide), readValue,
      skipSpace_visible (by decide)]
    simp only [found, bind, Except.bind]
    rfl
  | false =>
    obtain ⟨c, tail, begins, digit⟩ := head_of_readNumber found
    change readValueWith gather room (magnitude ++ rest) = _
    have list : c ≠ '[' := by
      rintro rfl
      exact absurd digit (by decide)
    have object : c ≠ '{' := by
      rintro rfl
      exact absurd digit (by decide)
    rw [begins] at found ⊢
    rw [readValueWith_visible gather room (digit_opens digit).1 list object,
      readValue_digit room digit, found]
    rfl

theorem readValueWith_quoted (cs rest : List Char) :
    readValueWith gather room (quoteChars cs ++ rest) = .ok (.str (String.ofList cs), rest) := by
  have text : quoteChars cs ++ rest = '"' :: (cs.flatMap escapeChar ++ '"' :: rest) := by
    simp [quoteChars]
  rw [text, readValueWith_visible gather room (by decide) (by decide) (by decide), readValue,
    skipSpace_visible (by decide)]
  simp only [readString_escaped]
  rfl

theorem readValueWith_list (cs : List Char) :
    readValueWith gather (room + 1) ('[' :: cs) =
      (readListBody (readValueWith gather room) cs).map fun read => (.arr read.1, read.2) := by
  rw [readValueWith, skipSpace_visible (by decide)]
  change (readListBody (readValueWith gather room) cs >>= fun read => pure (arr read.1, read.2)) = _
  cases readListBody (readValueWith gather room) cs <;> rfl

theorem readValueWith_object (cs : List Char) :
    readValueWith gather (room + 1) ('{' :: cs) =
      (readEntriesBody (readValueWith gather room) cs).map fun read =>
        (.obj (gather read.1), read.2) := by
  rw [readValueWith, skipSpace_visible (by decide)]
  change (readEntriesBody (readValueWith gather room) cs >>= fun read =>
    pure (obj (gather read.1), read.2)) = _
  cases readEntriesBody (readValueWith gather room) cs <;> rfl

end

/-- A printed value is read up to its end, in whatever way it is spaced and its objects are
gathered. -/
theorem readValueWith_printed (s : Spacing) (gather : Members → Members) (room : Nat) :
    ReadsBelow s gather room := by
  induction room with
  | zero =>
    intro level v rest fitting ends
    cases v with
    | null => rfl
    | bool value => cases value <;> rfl
    | num n => exact readValueWith_number gather 0 fitting ends
    | str value =>
      rw [printed, readValueWith_quoted, String.ofList_toList]
      rfl
    | arr items => cases fitting
    | obj members => cases fitting
  | succ room ih =>
    intro level v rest fitting ends
    cases v with
    | null => rfl
    | bool value => cases value <;> rfl
    | num n => exact readValueWith_number gather (room + 1) fitting ends
    | str value =>
      rw [printed, readValueWith_quoted, String.ofList_toList]
      rfl
    | arr items =>
      have all : ∀ item ∈ items, fits room item = true := List.all_eq_true.mp fitting
      cases items with
      | nil =>
        rw [printed]
        exact readValueWith_list gather room (']' :: rest)
      | cons item items =>
        have text : printed s level (.arr (item :: items)) ++ rest =
            '[' :: (s.start (level + 1) ++ (printed s (level + 1) item ++
              (printedItems s (level + 1) items ++ (s.start level ++ ']' :: rest)))) := by
          simp [printed]
        rw [text, readValueWith_list, readListBody_printed (ReadsBelow.readsPrinted ih) (level + 1)
          level (forall₂_rereadItemsWith gather _) all rest]
        rfl
    | obj members =>
      have all : ∀ member ∈ members, fits room member.2 = true := List.all_eq_true.mp fitting
      cases members with
      | nil =>
        rw [printed]
        exact readValueWith_object gather room ('}' :: rest)
      | cons member members =>
        obtain ⟨key, v⟩ := member
        have text : printed s level (.obj ((key, v) :: members)) ++ rest =
            '{' :: (s.start (level + 1) ++ '"' :: (key.toList.flatMap escapeChar ++
              '"' :: ':' :: (s.colon ++ (printed s (level + 1) v ++
                (printedMembers s (level + 1) members ++ (s.start level ++ '}' :: rest)))))) := by
          simp [printed, quoteChars]
        rw [text, readValueWith_object, readEntriesBody_printed ih (level + 1) level all rest]
        rfl

theorem readValue_printed (s : Spacing) (room level : Nat) (v : Json) (rest : List Char)
    (fitting : fits room v = true) (ends : NumberEnds rest) :
    readValue room (printed s level v ++ rest) = .ok (v.reread, rest) := by
  rw [← readValueWith_insertAll, readValueWith_printed s _ room level v rest fitting ends,
    rereadWith_insertAll]

theorem parse_of_printed {s : Spacing} {level : Nat} {v : Json} {text : String}
    (written : text.toList = printed s level v) (fitting : fits depthLimit v = true) :
    parse text = .ok v.reread := by
  have read := readValue_printed s depthLimit level v [] fitting numberEnds_nil
  rw [List.append_nil] at read
  unfold parse readWhole
  rw [written, read]
  rfl

theorem parse_compact {v : Json} (fitting : fits depthLimit v = true) :
    parse v.compact = .ok v.reread :=
  parse_of_printed (by rw [compact, String.toList_ofList, compactChars_eq 0]) fitting

theorem parse_pretty {v : Json} (fitting : fits depthLimit v = true) :
    parse v.pretty = .ok v.reread :=
  parse_of_printed (by rw [pretty, prettyAt, String.toList_ofList, prettyChars_eq]) fitting

/-! ## Characters -/

theorem Number.chars_printable (n : Number) : Printable n.chars := by
  cases n with
  | int value =>
    simp only [Number.chars]
    split
    · exact printable_cons.mpr ⟨by decide, Decimal.digits_printable _⟩
    · exact Decimal.digits_printable _
  | float x => exact Decimal.print_printable x

/-- The space between the parts does not break a line either. -/
structure Spacing.Inline (s : Spacing) : Prop where
  start (level : Nat) : Printable (s.start level)
  colon : Printable s.colon

mutual

theorem printed_printable {s : Spacing} (inline : s.Inline) (level : Nat) :
    ∀ v : Json, Printable (printed s level v)
  | .null | .bool true | .bool false | .arr [] | .obj [] => by simp [printed, boolChars]
  | .num n => by
    rw [printed]
    exact n.chars_printable
  | .str value => by
    rw [printed]
    exact quoteChars_printable value.toList
  | .arr (item :: items) => by
    have first := printed_printable inline (level + 1) item
    have others := printedItems_printable inline (level + 1) items
    simp [printed, inline.start, first, others]
  | .obj ((key, value) :: members) => by
    have first := printed_printable inline (level + 1) value
    have others := printedMembers_printable inline (level + 1) members
    simp [printed, inline.start, inline.colon, quoteChars_printable, first, others]

theorem printedItems_printable {s : Spacing} (inline : s.Inline) (level : Nat) :
    ∀ items : List Json, Printable (printedItems s level items)
  | [] => printable_nil
  | item :: items => by
    have first := printed_printable inline level item
    have others := printedItems_printable inline level items
    simp [printedItems, inline.start, first, others]

theorem printedMembers_printable {s : Spacing} (inline : s.Inline) (level : Nat) :
    ∀ members : List (String × Json), Printable (printedMembers s level members)
  | [] => printable_nil
  | (key, value) :: members => by
    have first := printed_printable inline level value
    have others := printedMembers_printable inline level members
    simp [printedMembers, inline.start, inline.colon, quoteChars_printable, first, others]

end

end ServerForge.Json
