import ServerForge.Proofs.PrintedRows
import ServerForge.Proofs.RecordValues
import ServerForge.Proofs.SkippedValues
import ServerForge.Proofs.ValueDepth

/-! Records read from a printed object. Main statement: what a record gives for an object as a value,
it gives for the text of that object too, in whatever way it is spaced; members that stand for no
field are passed over, however deep they are. -/
namespace ServerForge.Json

/-- What the text of a value is read as is what the value itself is read as. -/
def Follows {α : Type} (s : Spacing) (room : Nat) (read : Reader α)
    (ofJson : Json → Except Mismatch α) : Prop :=
  (∀ space cs, (∀ c ∈ space, isSpace c = true) → read (space ++ cs) = read cs) ∧
    ReadsPrinted s room read fun v a => ofJson v.reread = .ok a

theorem skipValue_printed (s : Spacing) (level : Nat) {space : List Char}
    (blank : ∀ c ∈ space, isSpace c = true) {v : Json} (inRange : v.inRange = true)
    {rest : List Char} (ends : NumberEnds rest) :
    skipValue (space ++ (printed s level v ++ rest)) = .ok ((), rest) := by
  have fitting := (fits_iff v.depth v).mpr ⟨le_rfl, inRange⟩
  have read := readValue_printed s v.depth level v rest fitting ends
  rw [← readValue_space blank] at read
  exact (readValue_passedOver v.depth _ _ _ _ (Nat.lt_succ_self _) read).1

/-! ## Codecs -/

theorem skipSpace_printed (s : Spacing) (level : Nat) {room : Nat} {v : Json}
    (fitting : fits room v = true) (rest : List Char) :
    skipSpace (printed s level v ++ rest) = printed s level v ++ rest := by
  obtain ⟨c, tail, begins, visible, -⟩ := (printed_opens s level fitting).append rest
  rw [begins, skipSpace_visible visible]

namespace Codec

variable {s : Spacing} {room : Nat}

theorem text_follows : Follows s room (text.read room) text.ofJson := by
  refine ⟨fun space cs blank => by simp only [text, skipSpace_append blank], ?_⟩
  intro level v value rest given fitting ends
  cases v with
  | str held =>
    cases given
    rw [printed, readText_quoteChars, String.ofList_toList]
  | _ => cases given

/-- Only `null` begins with its first letter. -/
theorem printed_begins {level : Nat} {v : Json} (other : v ≠ .null) (rest tail : List Char) :
    printed s level v ++ rest ≠ 'n' :: tail := by
  intro begins
  cases v with
  | null => exact other rfl
  | bool value => cases value <;> cases begins
  | num n =>
    obtain ⟨c, digits, shape, first⟩ := n.chars_begins
    rw [printed, shape] at begins
    cases begins
    rcases first with minus | digit
    · exact absurd minus (by decide)
    · exact absurd digit (by decide)
  | str value => cases begins
  | arr items => cases items <;> cases begins
  | obj members => cases members <;> cases begins

theorem optional_follows {α : Type} {codec : Codec α}
    (follows : Follows s room (codec.read room) codec.ofJson) :
    Follows s room (codec.optional.read room) codec.optional.ofJson := by
  refine ⟨fun space cs blank => by simp only [optional, skipSpace_append blank], ?_⟩
  intro level v value rest given fitting ends
  have visible := skipSpace_printed s level fitting rest
  by_cases none : v = .null
  · subst none
    cases given
    rfl
  · have entered : ∃ inner, codec.ofJson v.reread = .ok inner ∧ some inner = value := by
      refine map_eq_ok.mp (Eq.trans ?_ given)
      cases v with
      | null => exact absurd rfl none
      | _ => rfl
    obtain ⟨inner, here, rfl⟩ := entered
    have read := follows.2 level v inner rest here fitting ends
    simp only [optional]
    rw [visible]
    split
    next tail begins => exact absurd begins (printed_begins none rest tail)
    next => rw [read]; rfl

theorem forall₂_of_mapM {α : Type} {codec : Codec α} {items : List Json} {values : List α}
    (read : (rereadItems items).mapM codec.ofJson = .ok values) :
    List.Forall₂ (fun v a => codec.ofJson v.reread = .ok a) items values := by
  induction items generalizing values with
  | nil =>
    cases read
    exact .nil
  | cons item items ih =>
    rw [rereadItems, List.mapM_cons] at read
    obtain ⟨value, first, read⟩ := bind_eq_ok.mp read
    obtain ⟨others, later, same⟩ := bind_eq_ok.mp read
    cases same
    exact .cons first (ih later)

theorem list_follows {α : Type} {codec : Codec α}
    (follows : ∀ room, Follows s room (codec.read room) codec.ofJson) :
    Follows s room (codec.list.read room) codec.list.ofJson := by
  refine ⟨fun space cs blank => by simp only [list, skipSpace_append blank], ?_⟩
  intro level v values rest given fitting ends
  cases v with
  | arr items =>
    cases room with
    | zero => cases fitting
    | succ below =>
      have all : ∀ item ∈ items, fits below item = true := List.all_eq_true.mp fitting
      have each := forall₂_of_mapM given
      cases items with
      | nil =>
        cases each
        rfl
      | cons item items =>
        have text : printed s level (.arr (item :: items)) ++ rest =
            '[' :: (s.start (level + 1) ++ (printed s (level + 1) item ++
              (printedItems s (level + 1) items ++ (s.start level ++ ']' :: rest)))) := by
          simp [printed]
        simp only [list]
        rw [text, skipSpace_visible (by decide)]
        exact readListBody_printed (follows below).2 (level + 1) level each all rest
  | _ => cases given

theorem members_follows : Follows s room (members.read room) members.ofJson := by
  refine ⟨fun space cs blank => by simp only [members, skipSpace_append blank], ?_⟩
  intro level v held rest given fitting ends
  cases v with
  | obj entries =>
    cases given
    cases room with
    | zero => cases fitting
    | succ below =>
      have read := readValue_printed s (below + 1) level (.obj entries) rest fitting ends
      obtain ⟨tail, begins⟩ : ∃ tail, printed s level (.obj entries) ++ rest = '{' :: tail := by
        cases entries <;> exact ⟨_, rfl⟩
      rw [begins, readValue_object] at read
      obtain ⟨⟨found, left⟩, object, same⟩ := map_eq_ok.mp read
      cases same
      simp only [members]
      rw [begins, skipSpace_visible (by decide)]
      exact object
  | _ => cases given

end Codec

theorem Field.of_follows {σ α : Type} {s : Spacing} {room : Nat} {name : String}
    {aliases : List String} {presence : Presence} {codec : Codec α} {set : α → σ → σ}
    (follows : Follows s room (codec.read room) codec.ofJson) :
    Follows s room ((Field.of name aliases presence codec set).read room)
      (Field.of name aliases presence codec set).ofJson := by
  refine ⟨fun space cs blank => by simp only [Field.of, follows.1 space cs blank], ?_⟩
  intro level v made rest given fitting ends
  obtain ⟨value, here, rfl⟩ := Field.of_ofJson_eq_ok.mp given
  have read := follows.2 level v value rest here fitting ends
  simp only [Field.of, read]
  rfl

/-! ## Records -/

namespace Record

variable {σ : Type} {record : Record σ} {s : Spacing} {room : Nat}

/-- All fields of the record are read from a text as from a value. -/
def FieldsFollow (record : Record σ) (s : Spacing) (room : Nat) : Prop :=
  ∀ field ∈ record.fields, Follows s room (field.read room) field.ofJson

/-- Numbers are in range everywhere, and what stands for a field is not too deep. -/
def Readable (record : Record σ) (room : Nat) (members : Members) : Prop :=
  ∀ member ∈ members, member.2.inRange = true ∧
    ((record.field? member.1).isSome = true → member.2.depth ≤ room)

/-- One member, from the quote that opens its key: it is taken in or passed over, and reading goes
on with the same record as for values. -/
theorem readFields_member (follow : record.FieldsFollow s room) {first : Bool} (level : Nat)
    {key : String} {v : Json} {others : Members} {made t : σ} {seen : List String}
    {cs after : List Char} (readable : record.Readable room [(key, v)])
    (begins : nextKey first cs = .ok (some (key.toList.flatMap escapeChar ++
      '"' :: ':' :: (s.colon ++ (printed s level v ++ after)))))
    (ends : NumberEnds after)
    (taken : record.ofMembers made seen ((key, v.reread) :: others) = .ok t) :
    ∃ made' seen', record.ofMembers made' seen' others = .ok t ∧ ∀ bound,
      record.readFields room (bound + 1) first made seen cs =
        record.readFields room bound false made' seen' after := by
  obtain ⟨inRange, shallow⟩ := readable (key, v) (by simp)
  cases found : record.field? key with
  | none =>
    rw [ofMembers_unknown found] at taken
    refine ⟨made, seen, taken, fun bound => ?_⟩
    have skipped := skipValue_printed s level s.colon_space inRange ends
    rw [readFields, begins]
    simp only [bind, Except.bind, readString_escaped, String.ofList_toList, found,
      readColon_colon, skipped]
  | some field =>
    obtain ⟨unlisted, set, given, taken⟩ := (ofMembers_known found).mp taken
    refine ⟨set made, field.name :: seen, taken, fun bound => ?_⟩
    have fresh : ¬ seen.contains field.name = true := by simpa using unlisted
    obtain ⟨blank, reads⟩ := follow field (field?_stands found).1
    have fitting := (fits_iff room v).mpr ⟨shallow (by rw [found]; rfl), inRange⟩
    have read := reads level v set after given fitting ends
    rw [← blank s.colon _ s.colon_space] at read
    rw [readFields, begins]
    simp only [bind, Except.bind, readString_escaped, String.ofList_toList, found,
      if_neg fresh, readColon_colon, read]

/-- Members after the first, up to the end of the object: nothing that is required is missing. -/
theorem readFields_printed (follow : record.FieldsFollow s room) (level outer : Nat)
    {members : Members} (readable : record.Readable room members) {made t : σ}
    {seen : List String} {bound : Nat} (enough : members.length < bound) (rest : List Char)
    (taken : record.ofMembers made seen (rereadMembers members) = .ok t) :
    ∃ listed, record.missing? listed = none ∧
      record.readFields room bound false made seen
        (printedMembers s level members ++ (s.start outer ++ '}' :: rest)) =
        .ok ((t, listed), s.start outer ++ '}' :: rest) := by
  induction members generalizing made seen bound with
  | nil =>
    obtain ⟨bound, rfl⟩ := Nat.exists_eq_add_one.mpr enough
    obtain ⟨complete, rfl⟩ := ofMembers_nil.mp taken
    refine ⟨seen, complete, ?_⟩
    rw [printedMembers, List.nil_append, readFields, nextKey_close (s.start_space outer)]
    rfl
  | cons member members ih =>
    obtain ⟨key, v⟩ := member
    obtain ⟨bound, rfl⟩ := Nat.exists_eq_add_one.mpr (Nat.zero_lt_of_lt enough)
    have text : printedMembers s level ((key, v) :: members) ++ (s.start outer ++ '}' :: rest) =
        ',' :: (s.start level ++ '"' :: (key.toList.flatMap escapeChar ++
          '"' :: ':' :: (s.colon ++ (printed s level v ++
            (printedMembers s level members ++ (s.start outer ++ '}' :: rest)))))) := by
      simp [printedMembers, quoteChars]
    have here : record.Readable room [(key, v)] :=
      List.forall_mem_singleton.mpr (readable (key, v) (by simp))
    obtain ⟨made', seen', taken, step⟩ := readFields_member follow level here
      (nextKey_comma (s.start_space level) _) (ends_of_members level outer members rest) taken
    rw [text, step bound]
    exact ih (fun other inside => readable other (by simp [inside]))
      (Nat.lt_of_succ_lt_succ enough) taken

theorem readObject_of_fields {cs left rest : List Char} {t : σ} {listed : List String}
    (complete : record.missing? listed = none)
    (fields : record.readFields room (cs.length + 1) true record.start [] cs =
      .ok ((t, listed), left))
    (closed : closeObject left = .ok ((), rest)) : record.readObject room cs = .ok (t, rest) := by
  simp only [readObject, fields, bind, Except.bind, complete, closed]
  rfl

/-- What a record gives for an object as a value, it gives for the text of the object. -/
theorem read_printed (follow : record.FieldsFollow s room) (level : Nat) {members : Members}
    (readable : record.Readable room members) {t : σ}
    (taken : record.ofMembers record.start [] (rereadMembers members) = .ok t)
    (rest : List Char) :
    record.read (room + 1) (printed s level (.obj members) ++ rest) = .ok (t, rest) := by
  have entered (cs : List Char) :
      record.read (room + 1) ('{' :: cs) = record.readObject room cs := by
    rw [Record.read, skipSpace_visible (by decide)]
    rfl
  cases members with
  | nil =>
    obtain ⟨complete, rfl⟩ := ofMembers_nil.mp taken
    exact (entered ('}' :: rest)).trans (readObject_of_fields complete rfl rfl)
  | cons member members =>
    obtain ⟨key, v⟩ := member
    have text : printed s level (.obj ((key, v) :: members)) ++ rest =
        '{' :: (s.start (level + 1) ++ '"' :: (key.toList.flatMap escapeChar ++
          '"' :: ':' :: (s.colon ++ (printed s (level + 1) v ++
            (printedMembers s (level + 1) members ++ (s.start level ++ '}' :: rest)))))) := by
      simp [printed, quoteChars]
    have here : record.Readable room [(key, v)] :=
      List.forall_mem_singleton.mpr (readable (key, v) (by simp))
    obtain ⟨made, seen, taken, step⟩ := readFields_member follow (level + 1) here
      (nextKey_first (s.start_space (level + 1)) _)
      (ends_of_members (level + 1) level members rest) taken
    have enough : members.length < (s.start (level + 1) ++ '"' ::
        (key.toList.flatMap escapeChar ++ '"' :: ':' :: (s.colon ++ (printed s (level + 1) v ++
          (printedMembers s (level + 1) members ++ (s.start level ++ '}' :: rest)))))).length := by
      have count := length_printedMembers (s := s) (level + 1) members
      simp only [List.length_append, List.length_cons]
      omega
    obtain ⟨listed, complete, fields⟩ := readFields_printed follow (level + 1) level
      (fun other inside => readable other (by simp [inside])) enough rest taken
    rw [text, entered]
    exact readObject_of_fields complete ((step _).trans fields)
      (closeObject_close (s.start_space level) rest)

theorem parse_compact (follow : record.FieldsFollow .compact 126) {members : Members}
    (readable : record.Readable 126 members) {t : σ}
    (taken : record.ofMembers record.start [] (rereadMembers members) = .ok t) :
    record.parse (compact (.obj members)) = .ok t := by
  have read := read_printed follow 0 readable taken []
  rw [List.append_nil] at read
  have room : depthLimit = 126 + 1 := rfl
  rw [Record.parse, readWhole, compact, String.toList_ofList, compactChars_eq 0, room, read]
  rfl

end Record

end ServerForge.Json
