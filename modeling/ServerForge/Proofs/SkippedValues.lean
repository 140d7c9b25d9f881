import ServerForge.Proofs.RecordReading

/-! Values that are passed over. Main statement: whatever is read as a value, or as the content of a
type, can be passed over as well, and the same text follows. -/
namespace ServerForge.Json

/-! ## Strings -/

theorem skipString_of_read {cs text rest : List Char} (read : readString cs = .ok (text, rest)) :
    skipString cs = .ok ((), rest) ∧ rest.length < cs.length := by
  fun_induction readString cs generalizing text
  case case2 =>
    cases read
    exact ⟨by rw [skipString]; rfl, by simp⟩
  case case6 | case9 | case12 | case15 =>
    -- one escape, or a pair of them, or a character for itself, and then the rest of the string
    rename_i ih
    obtain ⟨_, later, same⟩ := bind_eq_ok.mp read
    cases same
    obtain ⟨skipped, shorter⟩ := ih later
    refine ⟨?_, by simp only [List.length_cons]; omega⟩
    simp [skipString, *]
  all_goals cases read

/-! ## Numbers -/

theorem headDigit_of_takeWhile {cs : List Char} (digits : cs.takeWhile Text.isDigit ≠ []) :
    (cs.head?.map Text.isDigit).getD false = true := by
  cases cs with
  | nil => exact absurd rfl digits
  | cons c cs =>
    by_contra other
    simp_all

theorem length_dropWhile_digit (cs : List Char) :
    (cs.dropWhile Text.isDigit).length ≤ cs.length :=
  (List.dropWhile_suffix Text.isDigit).length_le

variable {negative : Bool} {significand unused : Nat} {exponent : Int} {cs rest : List Char}
  {n : Number}

theorem skipExponent_of_read
    (read : readExponent negative significand exponent cs = .ok (n, rest)) :
    skipExponent cs = .ok ((), rest) ∧ rest.length ≤ cs.length := by
  unfold readExponent at read
  split at read
  next down unsigned signed =>
    have left : unsigned.takeWhile Text.isDigit ≠ [] ∧ rest = unsigned.dropWhile Text.isDigit := by
      dsimp only at read
      split at read
      next => cases read
      next => cases read
      next digits _ =>
        refine ⟨digits, ?_⟩
        split at read
        · obtain ⟨_, _, same⟩ := bind_eq_ok.mp read
          cases same
          rfl
        · split at read
          · cases read
          · cases read
            rfl
    have shorter : unsigned.length ≤ cs.length := by
      split at signed <;> cases signed <;> simp
    obtain ⟨digits, rfl⟩ := left
    have digit := headDigit_of_takeWhile digits
    refine ⟨?_, (length_dropWhile_digit unsigned).trans shorter⟩
    unfold skipExponent
    split at signed <;> cases signed <;> simp_all [pure, Except.pure]

theorem skipScale_of_read
    (read : readScale negative significand exponent cs = .ok (n, rest)) :
    skipScale cs = .ok ((), rest) ∧ rest.length ≤ cs.length := by
  unfold readScale at read
  split at read
  next tail =>
    obtain ⟨skipped, shorter⟩ := skipExponent_of_read read
    exact ⟨skipped, Nat.le_succ_of_le shorter⟩
  next tail =>
    obtain ⟨skipped, shorter⟩ := skipExponent_of_read read
    exact ⟨skipped, Nat.le_succ_of_le shorter⟩
  next small large =>
    obtain ⟨_, _, same⟩ := bind_eq_ok.mp read
    cases same
    refine ⟨?_, le_rfl⟩
    unfold skipScale
    split
    next => exact absurd rfl (small _)
    next => exact absurd rfl (large _)
    next => rfl

theorem skipFraction_of_readTail
    (read : readTail negative significand unused cs = .ok (n, rest)) :
    skipFraction cs = .ok ((), rest) ∧ rest.length ≤ cs.length := by
  unfold readTail at read
  split at read
  next tail =>
    unfold readFraction at read
    dsimp only at read
    split at read
    next => cases read
    next => cases read
    next digits _ =>
      obtain ⟨skipped, shorter⟩ := skipScale_of_read read
      have inside := length_dropWhile_digit tail
      refine ⟨?_, by simp only [List.length_cons]; omega⟩
      rw [skipFraction, if_pos (headDigit_of_takeWhile digits), skipped]
  next pointless =>
    have scale : skipFraction cs = skipScale cs := by
      unfold skipFraction
      split
      next => exact absurd rfl (pointless _)
      next => rfl
    rw [scale]
    split at read
    next plain =>
      obtain ⟨_, _, same⟩ := bind_eq_ok.mp read
      cases same
      refine ⟨?_, le_rfl⟩
      unfold skipScale
      split
      next => exact absurd rfl plain.2.1
      next => exact absurd rfl plain.2.2
      next => rfl
    next => exact skipScale_of_read read

theorem skipNumber_of_read (read : readNumber negative cs = .ok (n, rest)) :
    skipNumber cs = .ok ((), rest) ∧ rest.length < cs.length := by
  obtain ⟨c, tail, rfl, digit⟩ := head_of_readNumber read
  rw [readNumber, digit] at read
  rw [skipNumber, digit, List.length_cons]
  by_cases zero : c = '0'
  · subst zero
    simp only [Bool.not_true, Bool.false_eq_true, if_false, if_true, true_and] at read ⊢
    split at read
    · cases read
    next single =>
      obtain ⟨skipped, shorter⟩ := skipFraction_of_readTail read
      rw [if_neg single]
      exact ⟨skipped, by omega⟩
  · simp only [Bool.not_true, Bool.false_eq_true, if_false, zero, false_and, if_true] at read ⊢
    obtain ⟨skipped, shorter⟩ := skipFraction_of_readTail read
    have inside := length_dropWhile_digit tail
    exact ⟨skipped, by omega⟩

/-! ## Space and words -/

theorem length_skipSpace (cs : List Char) : (skipSpace cs).length ≤ cs.length :=
  (List.dropWhile_suffix isSpace).length_le

theorem length_of_skipSpace {c : Char} {tail : List Char} (visible : skipSpace cs = c :: tail) :
    tail.length < cs.length := by
  have all := length_skipSpace cs
  rw [visible, List.length_cons] at all
  omega

theorem skipNested_skipSpace (bound : Nat) (cs : List Char) :
    skipNested bound (skipSpace cs) = skipNested bound cs := by
  cases bound with
  | zero => rfl
  | succ bound => rw [skipNested, skipSpace_skipSpace, skipNested]

theorem length_of_readIdent {letters : List Char} (read : readIdent letters cs = .ok ((), rest)) :
    rest.length ≤ cs.length := by
  fun_induction readIdent letters cs with
  | case1 => cases read; exact le_rfl
  | case3 _ _ _ ih => exact Nat.le_succ_of_le (ih read)
  | case2 | case4 => cases read

theorem length_of_readColon (read : readColon cs = .ok ((), rest)) : rest.length < cs.length := by
  unfold readColon at read
  split at read
  next => cases read
  next tail colon =>
    cases read
    exact length_of_skipSpace colon
  next => cases read

/-! ## Lists -/

/-- What the reader takes for something can be passed over in place of that. The bound is one on
the depth, for which the length of the text is enough. -/
def PassedOver {α : Type} (read : Reader α) : Prop :=
  ∀ bound cs a rest, cs.length < bound → read cs = .ok (a, rest) →
    skipNested bound cs = .ok ((), rest) ∧ rest.length < cs.length

theorem nextItem_none {first : Bool} (found : nextItem first cs = .ok none) :
    ∃ tail, skipSpace cs = ']' :: tail := by
  unfold nextItem at found
  split at found
  next => cases found
  next tail bracket => exact ⟨tail, bracket⟩
  next tail comma =>
    split at found
    · cases found
    · split at found <;> cases found
  next => split at found <;> cases found

/-- The first item begins at once. -/
theorem nextItem_at_once {start : List Char} (found : nextItem true cs = .ok (some start)) :
    skipSpace cs = start ∧ ∃ c tail, start = c :: tail ∧ c ≠ ']' := by
  unfold nextItem at found
  split at found
  next => cases found
  next => cases found
  next tail comma =>
    cases found
    exact ⟨comma, ',', tail, rfl, by decide⟩
  next empty bracket _ =>
    cases found
    cases shape : skipSpace cs with
    | nil => exact absurd shape empty
    | cons c tail => exact ⟨rfl, c, tail, rfl, fun same => bracket tail (same ▸ shape)⟩

/-- A further item comes after a comma. -/
theorem nextItem_further {start : List Char} (found : nextItem false cs = .ok (some start)) :
    ∃ tail, skipSpace cs = ',' :: tail ∧ skipSpace tail = start := by
  unfold nextItem at found
  split at found
  next => cases found
  next => cases found
  next tail comma =>
    rw [if_neg Bool.false_ne_true] at found
    split at found
    next => cases found
    next => cases found
    next =>
      cases found
      exact ⟨tail, comma, rfl⟩
  next => cases found

theorem closeList_bracket {tail : List Char} (bracket : skipSpace cs = ']' :: tail)
    (closed : closeList cs = .ok ((), rest)) : rest = tail := by
  unfold closeList at closed
  rw [bracket] at closed
  cases closed
  rfl

section

variable {α : Type} {item : Reader α} {depth : Nat}

theorem skipItems_skipSpace (bound : Nat) (cs : List Char) :
    skipItems (skipNested depth) bound (skipSpace cs) = skipItems (skipNested depth) bound cs := by
  cases bound with
  | zero => rfl
  | succ bound => rw [skipItems, skipNested_skipSpace, skipItems]

/-- An item, and those after it up to the bracket that closes the list. -/
theorem skipItems_of_read (passed : PassedOver item) {count bound : Nat}
    {start after left rest : List Char} {v : α} {vs : List α} (deep : start.length < depth)
    (enough : start.length < bound) (here : item start = .ok (v, after))
    (others : readItems item count false after = .ok (vs, left))
    (closed : closeList left = .ok ((), rest)) :
    skipItems (skipNested depth) bound start = .ok ((), rest) ∧ rest.length < start.length := by
  induction count generalizing bound start after v vs with
  | zero => cases others
  | succ count ih =>
    obtain ⟨skipped, shorter⟩ := passed depth start v after deep here
    obtain ⟨bound, rfl⟩ := Nat.exists_eq_add_one.mpr (Nat.zero_lt_of_lt enough)
    rw [readItems] at others
    obtain ⟨next, found, others⟩ := bind_eq_ok.mp others
    cases next with
    | none =>
      obtain ⟨tail, bracket⟩ := nextItem_none found
      cases others
      obtain rfl := closeList_bracket bracket closed
      refine ⟨?_, (length_of_skipSpace bracket).trans shorter⟩
      rw [skipItems, skipped]
      simp [bind, Except.bind, bracket, pure, Except.pure]
    | some next =>
      obtain ⟨tail, comma, rfl⟩ := nextItem_further found
      obtain ⟨⟨w, further⟩, here', others⟩ := bind_eq_ok.mp others
      obtain ⟨⟨ws, left'⟩, others, same⟩ := bind_eq_ok.mp others
      cases same
      have near := length_of_skipSpace comma
      have nearer := length_skipSpace tail
      have below : (skipSpace tail).length < depth := by omega
      have within : (skipSpace tail).length < bound := by omega
      obtain ⟨later, last⟩ := ih below within here' others
      refine ⟨?_, by omega⟩
      rw [skipItems_skipSpace] at later
      rw [skipItems, skipped]
      simpa [bind, Except.bind, comma] using later

theorem skipListBody_of_read (passed : PassedOver item) {vs : List α} (deep : cs.length < depth)
    (read : readListBody item cs = .ok (vs, rest)) :
    skipListBody (skipNested depth) cs = .ok ((), rest) ∧ rest.length < cs.length := by
  obtain ⟨⟨found, left⟩, items, read⟩ := bind_eq_ok.mp read
  obtain ⟨⟨⟩, closed, same⟩ := bind_eq_ok.mp read
  cases same
  rw [readItems] at items
  obtain ⟨next, begins, items⟩ := bind_eq_ok.mp items
  cases next with
  | none =>
    obtain ⟨tail, bracket⟩ := nextItem_none begins
    cases items
    obtain rfl := closeList_bracket bracket closed
    refine ⟨?_, length_of_skipSpace bracket⟩
    rw [skipListBody, bracket]
    rfl
  | some start =>
    obtain ⟨visible, c, tail, rfl, other⟩ := nextItem_at_once begins
    obtain ⟨⟨v, after⟩, here, items⟩ := bind_eq_ok.mp items
    obtain ⟨⟨vs, left⟩, others, same⟩ := bind_eq_ok.mp items
    cases same
    have near := length_skipSpace cs
    rw [visible] at near
    obtain ⟨skipped, shorter⟩ := skipItems_of_read passed (near.trans_lt deep)
      (Nat.lt_add_one (c :: tail).length) here others closed
    refine ⟨?_, shorter.trans_le near⟩
    unfold skipListBody
    split
    next empty => cases visible.symm.trans empty
    next bracket =>
      cases visible.symm.trans bracket
      exact absurd rfl other
    next => rw [visible]; exact skipped

/-! ## Objects -/

theorem nextKey_none {first : Bool} (found : nextKey first cs = .ok none) :
    ∃ tail, skipSpace cs = '}' :: tail := by
  unfold nextKey at found
  split at found
  next => cases found
  next tail brace => exact ⟨tail, brace⟩
  next =>
    split at found
    · cases found
    · split at found <;> cases found
  next => split at found <;> cases found
  next => cases found

theorem nextKey_at_once {start : List Char} (found : nextKey true cs = .ok (some start)) :
    skipSpace cs = '"' :: start := by
  unfold nextKey at found
  split at found
  next => cases found
  next => cases found
  next => cases found
  next tail quote =>
    cases found
    exact quote
  next => cases found

theorem nextKey_further {start : List Char} (found : nextKey false cs = .ok (some start)) :
    ∃ tail, skipSpace cs = ',' :: tail ∧ skipSpace tail = '"' :: start := by
  unfold nextKey at found
  split at found
  next => cases found
  next => cases found
  next tail comma =>
    rw [if_neg Bool.false_ne_true] at found
    split at found
    next => cases found
    next quote =>
      cases found
      exact ⟨tail, comma, quote⟩
    next => cases found
    next => cases found
  next => cases found
  next => cases found

theorem closeObject_brace {tail : List Char} (brace : skipSpace cs = '}' :: tail)
    (closed : closeObject cs = .ok ((), rest)) : rest = tail := by
  unfold closeObject at closed
  rw [brace] at closed
  cases closed
  rfl

variable {value : Reader Json}

/-- A member, from the quote that opens its key, and those after it up to the brace that closes the
object. -/
theorem skipMembers_of_read (passed : PassedOver value) {count bound : Nat}
    {start a b after left rest key : List Char} {v : Json} {entries : Members}
    (deep : cs.length < depth) (enough : cs.length < bound) (opened : skipSpace cs = '"' :: start)
    (string : readString start = .ok (key, a)) (colon : readColon a = .ok ((), b))
    (here : value b = .ok (v, after))
    (others : readEntries value count false after = .ok (entries, left))
    (closed : closeObject left = .ok ((), rest)) :
    skipMembers (skipNested depth) bound cs = .ok ((), rest) ∧ rest.length < cs.length := by
  induction count generalizing bound cs start a b after key v entries with
  | zero => cases others
  | succ count ih =>
    have first := length_of_skipSpace opened
    obtain ⟨keySkipped, second⟩ := skipString_of_read string
    have third := length_of_readColon colon
    obtain ⟨skipped, fourth⟩ := passed depth b v after (by omega) here
    obtain ⟨bound, rfl⟩ := Nat.exists_eq_add_one.mpr (Nat.zero_lt_of_lt enough)
    rw [readEntries] at others
    obtain ⟨next, found, others⟩ := bind_eq_ok.mp others
    cases next with
    | none =>
      obtain ⟨tail, brace⟩ := nextKey_none found
      cases others
      obtain rfl := closeObject_brace brace closed
      have last := length_of_skipSpace brace
      refine ⟨?_, by omega⟩
      rw [skipMembers, opened]
      simp [keySkipped, colon, skipped, bind, Except.bind, brace, pure, Except.pure]
    | some next =>
      obtain ⟨tail, comma, quote⟩ := nextKey_further found
      obtain ⟨⟨_, _⟩, string', others⟩ := bind_eq_ok.mp others
      obtain ⟨⟨⟨⟩, _⟩, colon', others⟩ := bind_eq_ok.mp others
      obtain ⟨⟨_, _⟩, here', others⟩ := bind_eq_ok.mp others
      obtain ⟨⟨_, _⟩, others, same⟩ := bind_eq_ok.mp others
      cases same
      have near := length_of_skipSpace comma
      have below : tail.length < depth := by omega
      have within : tail.length < bound := by omega
      obtain ⟨later, last⟩ := ih below within quote string' colon' here' others
      refine ⟨?_, by omega⟩
      rw [skipMembers, opened]
      simpa [keySkipped, colon, skipped, bind, Except.bind, comma] using later

theorem skipObjectBody_of_read (passed : PassedOver value) {entries : Members}
    (deep : cs.length < depth) (read : readEntriesBody value cs = .ok (entries, rest)) :
    skipObjectBody (skipNested depth) cs = .ok ((), rest) ∧ rest.length < cs.length := by
  obtain ⟨⟨found, left⟩, members, read⟩ := bind_eq_ok.mp read
  obtain ⟨⟨⟩, closed, same⟩ := bind_eq_ok.mp read
  cases same
  rw [readEntries] at members
  obtain ⟨next, begins, members⟩ := bind_eq_ok.mp members
  cases next with
  | none =>
    obtain ⟨tail, brace⟩ := nextKey_none begins
    cases members
    obtain rfl := closeObject_brace brace closed
    refine ⟨?_, length_of_skipSpace brace⟩
    rw [skipObjectBody, brace]
    rfl
  | some start =>
    have quote := nextKey_at_once begins
    obtain ⟨⟨_, _⟩, string, members⟩ := bind_eq_ok.mp members
    obtain ⟨⟨⟨⟩, _⟩, colon, members⟩ := bind_eq_ok.mp members
    obtain ⟨⟨_, _⟩, here, members⟩ := bind_eq_ok.mp members
    obtain ⟨⟨_, _⟩, others, same⟩ := bind_eq_ok.mp members
    cases same
    have near := length_skipSpace cs
    have opened : skipSpace (skipSpace cs) = '"' :: start := by rw [skipSpace_skipSpace, quote]
    obtain ⟨skipped, shorter⟩ := skipMembers_of_read passed (near.trans_lt deep)
      (Nat.lt_add_one (skipSpace cs).length) opened string colon here others closed
    refine ⟨?_, shorter.trans_le near⟩
    rw [quote] at skipped
    rw [skipObjectBody, quote]
    exact skipped

end

/-! ## Values -/

theorem skipNested_digit (bound : Nat) {c : Char} (digit : Text.isDigit c = true)
    (cs : List Char) : skipNested (bound + 1) (c :: cs) = skipNumber (c :: cs) := by
  rw [skipNested, skipSpace_visible (digit_opens digit).1]
  split
  case h_1 => contradiction
  case h_9 same =>
    cases same
    rw [if_pos digit]
  all_goals
    rename_i same
    cases same
    exact absurd digit (by decide)

theorem readObjectBody_passedOver {value : Reader Json} (passed : PassedOver value) {depth : Nat}
    {members : Members} (deep : cs.length < depth)
    (read : readObjectBody value cs = .ok (members, rest)) :
    skipObjectBody (skipNested depth) cs = .ok ((), rest) ∧ rest.length < cs.length := by
  rw [readObjectBody_eq] at read
  obtain ⟨⟨entries, left⟩, entered, same⟩ := map_eq_ok.mp read
  cases same
  exact skipObjectBody_of_read passed deep entered

/-- The room that is left is what the recursion goes down with. -/
theorem readValue_passedOver (room : Nat) : PassedOver (readValue room) := by
  intro bound cs v rest enough read
  obtain ⟨bound, rfl⟩ := Nat.exists_eq_add_one.mpr (Nat.zero_lt_of_lt enough)
  have near {c : Char} {tail : List Char} (begins : skipSpace cs = c :: tail) :
      tail.length < cs.length ∧ tail.length < bound := by
    have shorter := length_of_skipSpace begins
    exact ⟨shorter, by omega⟩
  rw [readValue] at read
  split at read
  case h_1 => cases read
  case h_2 tail begins | h_3 tail begins | h_4 tail begins =>
    -- one of the three words
    obtain ⟨⟨⟨⟩, _⟩, word, same⟩ := bind_eq_ok.mp read
    cases same
    rw [skipNested, begins]
    exact ⟨word, (length_of_readIdent word).trans_lt (near begins).1⟩
  next tail begins =>
    obtain ⟨⟨_, _⟩, number, same⟩ := bind_eq_ok.mp read
    cases same
    obtain ⟨skipped, shorter⟩ := skipNumber_of_read number
    rw [skipNested, begins]
    exact ⟨skipped, shorter.trans (near begins).1⟩
  next tail begins =>
    obtain ⟨⟨_, _⟩, string, same⟩ := bind_eq_ok.mp read
    cases same
    obtain ⟨skipped, shorter⟩ := skipString_of_read string
    rw [skipNested, begins]
    exact ⟨skipped, shorter.trans (near begins).1⟩
  next tail begins =>
    split at read
    · cases read
    next below =>
      obtain ⟨⟨_, _⟩, list, same⟩ := bind_eq_ok.mp read
      cases same
      obtain ⟨skipped, shorter⟩ :=
        skipListBody_of_read (readValue_passedOver below) (near begins).2 list
      rw [skipNested, begins]
      exact ⟨skipped, shorter.trans (near begins).1⟩
  next tail begins =>
    split at read
    · cases read
    next below =>
      obtain ⟨⟨_, _⟩, object, same⟩ := bind_eq_ok.mp read
      cases same
      obtain ⟨skipped, shorter⟩ :=
        readObjectBody_passedOver (readValue_passedOver below) (near begins).2 object
      rw [skipNested, begins]
      exact ⟨skipped, shorter.trans (near begins).1⟩
  next c tail _ _ _ _ _ _ _ begins =>
    split at read
    next digit =>
      obtain ⟨⟨_, _⟩, number, same⟩ := bind_eq_ok.mp read
      cases same
      obtain ⟨skipped, shorter⟩ := skipNumber_of_read number
      have visible := length_skipSpace cs
      rw [← skipNested_skipSpace, begins, skipNested_digit bound digit]
      exact ⟨skipped, shorter.trans_le (begins ▸ visible)⟩
    next => cases read
termination_by room

/-! ## Contents of a type -/

theorem Codec.text_passedOver (room : Nat) : PassedOver (text.read room) := by
  intro bound cs value rest enough read
  obtain ⟨bound, rfl⟩ := Nat.exists_eq_add_one.mpr (Nat.zero_lt_of_lt enough)
  simp only [text] at read
  split at read
  next tail begins =>
    obtain ⟨⟨_, _⟩, string, same⟩ := bind_eq_ok.mp read
    cases same
    obtain ⟨skipped, shorter⟩ := skipString_of_read string
    rw [skipNested, begins]
    exact ⟨skipped, shorter.trans (length_of_skipSpace begins)⟩
  next => cases read

theorem Codec.optional_passedOver {α : Type} {codec : Codec α} {room : Nat}
    (passed : PassedOver (codec.read room)) : PassedOver (codec.optional.read room) := by
  intro bound cs value rest enough read
  simp only [optional] at read
  split at read
  next tail begins =>
    obtain ⟨⟨⟨⟩, _⟩, word, same⟩ := bind_eq_ok.mp read
    cases same
    obtain ⟨bound, rfl⟩ := Nat.exists_eq_add_one.mpr (Nat.zero_lt_of_lt enough)
    rw [skipNested, begins]
    exact ⟨word, (length_of_readIdent word).trans_lt (length_of_skipSpace begins)⟩
  next =>
    obtain ⟨⟨_, _⟩, here, same⟩ := bind_eq_ok.mp read
    cases same
    have visible := length_skipSpace cs
    obtain ⟨skipped, shorter⟩ := passed bound _ _ _ (visible.trans_lt enough) here
    rw [skipNested_skipSpace] at skipped
    exact ⟨skipped, shorter.trans_le visible⟩

theorem Codec.list_passedOver {α : Type} {codec : Codec α}
    (passed : ∀ room, PassedOver (codec.read room)) (room : Nat) :
    PassedOver (codec.list.read room) := by
  intro bound cs values rest enough read
  obtain ⟨bound, rfl⟩ := Nat.exists_eq_add_one.mpr (Nat.zero_lt_of_lt enough)
  simp only [list] at read
  split at read
  next tail begins =>
    obtain ⟨below, -, list⟩ := bind_eq_ok.mp read
    have near := length_of_skipSpace begins
    have within : tail.length < bound := by omega
    obtain ⟨skipped, shorter⟩ := skipListBody_of_read (passed below) within list
    rw [skipNested, begins]
    exact ⟨skipped, shorter.trans near⟩
  next => cases read

theorem Codec.members_passedOver (room : Nat) : PassedOver (members.read room) := by
  intro bound cs held rest enough read
  obtain ⟨bound, rfl⟩ := Nat.exists_eq_add_one.mpr (Nat.zero_lt_of_lt enough)
  simp only [members] at read
  split at read
  next tail begins =>
    obtain ⟨below, -, object⟩ := bind_eq_ok.mp read
    have near := length_of_skipSpace begins
    have within : tail.length < bound := by omega
    obtain ⟨skipped, shorter⟩ :=
      readObjectBody_passedOver (readValue_passedOver below) within object
    rw [skipNested, begins]
    exact ⟨skipped, shorter.trans near⟩
  next => cases read

theorem Field.of_passedOver {σ α : Type} {name : String} {aliases : List String}
    {presence : Presence} {codec : Codec α} {set : α → σ → σ} {room : Nat}
    (passed : PassedOver (codec.read room)) :
    PassedOver ((Field.of name aliases presence codec set).read room) := by
  intro bound cs made rest enough read
  obtain ⟨⟨value, left⟩, here, same⟩ := bind_eq_ok.mp read
  cases same
  exact passed bound cs value rest enough here

end ServerForge.Json
