import Mathlib.Data.String.Basic
import ServerForge.Proofs.Rereading

/-! What reading a text can give. Main statement: a value that was read is no deeper than allowed,
its numbers are in range and its objects in the order of their keys, so it can be read again. -/
namespace ServerForge.Json

theorem bind_eq_ok {ε α β : Type} {x : Except ε α} {f : α → Except ε β} {b : β} :
    (x >>= f) = .ok b ↔ ∃ a, x = .ok a ∧ f a = .ok b := by
  cases x with
  | error e => simp [bind, Except.bind]
  | ok a => simp [bind, Except.bind]

theorem map_eq_ok {ε α β : Type} {f : α → β} {x : Except ε α} {b : β} :
    f <$> x = .ok b ↔ ∃ a, x = .ok a ∧ f a = b := by
  cases x with
  | error e => simp [Functor.map, Except.map]
  | ok a => simp [Functor.map, Except.map]

/-! ## Numbers -/

/-- The members stand in the order of their keys, each key only once. -/
def KeysInOrder (members : Members) : Prop := members.Pairwise fun a b => a.1 < b.1

theorem mem_insert {key : String} {value : Json} {members : Members} {member : String × Json}
    (inside : member ∈ insert key value members) : member = (key, value) ∨ member ∈ members := by
  induction members with
  | nil => simpa [insert] using inside
  | cons head members ih =>
    obtain ⟨k, v⟩ := head
    unfold insert at inside
    split at inside
    · rcases List.mem_cons.mp inside with same | later
      · exact .inl same
      · exact .inr (by simp [later])
    split at inside
    · rcases List.mem_cons.mp inside with same | later
      · exact .inl same
      · exact .inr later
    · rcases List.mem_cons.mp inside with same | later
      · exact .inr (by simp [same])
      · rcases ih later with new | old
        · exact .inl new
        · exact .inr (by simp [old])

theorem KeysInOrder.insert {members : Members} (ordered : KeysInOrder members) (key : String)
    (value : Json) : KeysInOrder (insert key value members) := by
  unfold KeysInOrder at ordered ⊢
  induction members with
  | nil => simp [Json.insert]
  | cons head members ih =>
    obtain ⟨k, v⟩ := head
    obtain ⟨above, rest⟩ := List.pairwise_cons.mp ordered
    unfold Json.insert
    split
    next same =>
      subst same
      exact List.pairwise_cons.mpr ⟨above, rest⟩
    next other =>
    split
    next before =>
      refine List.pairwise_cons.mpr ⟨fun member inside => ?_, ordered⟩
      rcases List.mem_cons.mp inside with rfl | later
      · exact before
      · exact String.lt_trans before (above member later)
    next notBefore =>
      refine List.pairwise_cons.mpr ⟨fun member inside => ?_, ih rest⟩
      rcases mem_insert inside with rfl | old
      · exact lt_of_le_of_ne (not_lt.mp notBefore) (Ne.symm other)
      · exact above member old

/-! ## Values -/

/-- Every object in the value has its members in the order of their keys. -/
inductive Ordered : Json → Prop where
  | null : Ordered .null
  | bool (value : Bool) : Ordered (.bool value)
  | num (n : Number) : Ordered (.num n)
  | str (value : String) : Ordered (.str value)
  | arr {items : List Json} (inside : ∀ item ∈ items, Ordered item) : Ordered (.arr items)
  | obj {members : List (String × Json)} (keys : KeysInOrder members)
      (inside : ∀ member ∈ members, Ordered member.2) : Ordered (.obj members)

/-- What the reading of a value can have come from, by the form of the value. -/
inductive ReadFrom (room : Nat) (cs rest : List Char) : Json → Prop where
  | null (tail : List Char) (word : skipSpace cs = 'n' :: tail) : ReadFrom room cs rest .null
  | bool (value : Bool) : ReadFrom room cs rest (.bool value)
  | num {negative : Bool} {start : List Char} {n : Number}
      (number : readNumber negative start = .ok (n, rest)) : ReadFrom room cs rest (.num n)
  | str (value : String) : ReadFrom room cs rest (.str value)
  | arr {below : Nat} (deeper : room = below + 1) {start : List Char} {items : List Json}
      (list : readListBody (readValue below) start = .ok (items, rest)) :
      ReadFrom room cs rest (.arr items)
  | obj {below : Nat} (deeper : room = below + 1) {start : List Char} {members : Members}
      (object : readObjectBody (readValue below) start = .ok (members, rest))
      (opened : skipSpace cs = '{' :: start) : ReadFrom room cs rest (.obj members)

theorem readValue_cases {room : Nat} {cs rest : List Char} {v : Json}
    (read : readValue room cs = .ok (v, rest)) : ReadFrom room cs rest v := by
  rw [readValue] at read
  split at read
  next => cases read
  next tail word =>
    obtain ⟨_, _, same⟩ := bind_eq_ok.mp read
    cases same
    exact .null tail word
  next =>
    obtain ⟨_, _, same⟩ := bind_eq_ok.mp read
    cases same
    exact .bool true
  next =>
    obtain ⟨_, _, same⟩ := bind_eq_ok.mp read
    cases same
    exact .bool false
  next =>
    obtain ⟨⟨n, _⟩, number, same⟩ := bind_eq_ok.mp read
    cases same
    exact .num number
  next =>
    obtain ⟨⟨text, _⟩, _, same⟩ := bind_eq_ok.mp read
    cases same
    exact .str (String.ofList text)
  next =>
    split at read
    · cases read
    next below =>
      obtain ⟨⟨items, _⟩, list, same⟩ := bind_eq_ok.mp read
      cases same
      exact .arr rfl list
  next opened =>
    split at read
    · cases read
    next below =>
      obtain ⟨⟨members, _⟩, object, same⟩ := bind_eq_ok.mp read
      cases same
      exact .obj rfl object opened
  next =>
    split at read
    · obtain ⟨⟨n, _⟩, number, same⟩ := bind_eq_ok.mp read
      cases same
      exact .num number
    · cases read

mutual

/-- No floating-point number occurs in the value. -/
def floatless : Json → Bool
  | .num (.float _) => false
  | .arr items => floatlessItems items
  | .obj members => floatlessMembers members
  | _ => true

def floatlessItems : List Json → Bool
  | [] => true
  | item :: items => floatless item && floatlessItems items

def floatlessMembers : List (String × Json) → Bool
  | [] => true
  | (_, value) :: members => floatless value && floatlessMembers members

end

theorem insert_last {members : Members} {key : String} {value : Json}
    (above : ∀ member ∈ members, member.1 < key) :
    insert key value members = members ++ [(key, value)] := by
  induction members with
  | nil => rfl
  | cons head members ih =>
    obtain ⟨k, v⟩ := head
    have less : k < key := above (k, v) (by simp)
    rw [insert, if_neg (ne_of_gt less), if_neg (not_lt.mpr less.le),
      ih fun member inside => above member (by simp [inside])]
    rfl

/-- Members that stand in order already keep their order. -/
theorem insertAll_of_ordered {members into : Members} (keys : KeysInOrder (into ++ members)) :
    insertAll members into = into ++ members := by
  induction members generalizing into with
  | nil => simp [insertAll]
  | cons head members ih =>
    obtain ⟨k, v⟩ := head
    have above : ∀ member ∈ into, member.1 < k := fun member inside =>
      (List.pairwise_append.mp keys).2.2 member inside (k, v) (by simp)
    have regrouped : into ++ (k, v) :: members = (into ++ [(k, v)]) ++ members := by simp
    rw [regrouped] at keys ⊢
    rw [← ih keys, ← insert_last above]
    rfl

theorem rereadItems_eq_self {items : List Json}
    (each : ∀ item ∈ items, floatless item = true → reread item = item)
    (exact : floatlessItems items = true) : rereadItems items = items := by
  induction items with
  | nil => rfl
  | cons item items ih =>
    rw [floatlessItems, Bool.and_eq_true] at exact
    rw [rereadItems, each item (by simp) exact.1,
      ih (fun other member => each other (by simp [member])) exact.2]

theorem rereadMembers_eq_self {members : List (String × Json)}
    (each : ∀ member ∈ members, floatless member.2 = true → reread member.2 = member.2)
    (exact : floatlessMembers members = true) : rereadMembers members = members := by
  induction members with
  | nil => rfl
  | cons member members ih =>
    obtain ⟨key, value⟩ := member
    rw [floatlessMembers, Bool.and_eq_true] at exact
    rw [rereadMembers, each (key, value) (by simp) exact.1,
      ih (fun other inside => each other (by simp [inside])) exact.2]

/-- Floating-point numbers apart, a value in order is read back as it is. -/
theorem reread_eq_self {v : Json} (ordered : Ordered v) (exact : floatless v = true) :
    reread v = v := by
  induction ordered with
  | null | bool | str => rfl
  | num n =>
    cases n with
    | int value => rfl
    | float x => cases exact
  | arr inside ih =>
    rw [floatless] at exact
    rw [reread, rereadItems_eq_self ih exact]
  | obj keys inside ih =>
    rw [floatless] at exact
    rw [reread, rereadMembers_eq_self ih exact, object, insertAll_of_ordered (by simpa using keys)]
    rfl

end ServerForge.Json
