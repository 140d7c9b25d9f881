import ServerForge.Proofs.RecordValues
import ServerForge.Proofs.SkippedValues

/-! The keys of an object text, whatever its values are. Main statement: a text with two keys that
stand for one field is no text of the record, wherever the keys are and whatever else is there. -/
namespace ServerForge.Json

/-- Passes over a value, and gives `null` for it. -/
def overlook : Reader Json := fun cs => do
  let ((), rest) ← skipValue cs
  return (.null, rest)

/-- The keys of a text that is an object, in their order. -/
def objectKeys (text : String) : Except Fault (List String) :=
  match skipSpace text.toList with
  | '\x7b' :: rest => keys <$> readWhole (readEntriesBody overlook) rest
  | rest => throw (.atNext .valueExpected rest)

/-! ## Keys of what can be read -/

/-- The members without their values. -/
def outline (members : Members) : Members := members.map fun member => (member.1, .null)

theorem keys_outline (members : Members) : keys (outline members) = keys members := by
  simp [keys, outline]

theorem overlook_of_read {α : Type} {read : Reader α} (passed : PassedOver read)
    {cs rest : List Char} {a : α} (found : read cs = .ok (a, rest)) :
    overlook cs = .ok (.null, rest) := by
  obtain ⟨skipped, -⟩ := passed _ _ _ _ (Nat.lt_succ_self _) found
  rw [overlook, skipValue, skipped]
  rfl

theorem readEntries_outline {value : Reader Json} (passed : PassedOver value) {bound : Nat}
    {first : Bool} {cs left : List Char} {entries : Members}
    (read : readEntries value bound first cs = .ok (entries, left)) :
    readEntries overlook bound first cs = .ok (outline entries, left) := by
  induction bound generalizing first cs entries with
  | zero => cases read
  | succ bound ih =>
    rw [readEntries] at read ⊢
    obtain ⟨next, found, read⟩ := bind_eq_ok.mp read
    rw [found]
    cases next with
    | none =>
      cases read
      rfl
    | some start =>
      obtain ⟨⟨key, _⟩, string, read⟩ := bind_eq_ok.mp read
      obtain ⟨⟨⟨⟩, _⟩, colon, read⟩ := bind_eq_ok.mp read
      obtain ⟨⟨v, _⟩, here, read⟩ := bind_eq_ok.mp read
      obtain ⟨⟨others, _⟩, later, same⟩ := bind_eq_ok.mp read
      cases same
      simp only [bind, Except.bind, string, colon, overlook_of_read passed here, ih later]
      rfl

/-- The keys of a text that is read as an object are those of the object. -/
theorem objectKeys_of_parse {text : String} {members : Members}
    (read : parse text = .ok (.obj members)) :
    ∃ listed, objectKeys text = .ok listed ∧ ∀ key, key ∈ listed ↔ key ∈ keys members := by
  obtain ⟨⟨v, left⟩, value, read⟩ := bind_eq_ok.mp read
  obtain ⟨⟨⟩, finished, same⟩ := bind_eq_ok.mp read
  cases same
  cases readValue_cases value with
  | obj deeper object opened =>
    rw [readObjectBody_eq] at object
    obtain ⟨⟨entries, _⟩, entered, same⟩ := map_eq_ok.mp object
    cases same
    obtain ⟨⟨_, _⟩, listed, entered⟩ := bind_eq_ok.mp entered
    obtain ⟨⟨⟨⟩, _⟩, closed, same⟩ := bind_eq_ok.mp entered
    cases same
    refine ⟨keys entries, ?_, fun key => ?_⟩
    · have outlined := readEntries_outline (readValue_passedOver _) listed
      rw [objectKeys, opened]
      simp only [readWhole, readEntriesBody, outlined, bind, Except.bind, closed, pure, Except.pure,
        finished]
      exact congrArg Except.ok (keys_outline entries)
    · rw [mem_keys_insertAll]
      simp [keys]

/-! ## Two keys for one field -/

namespace Record

variable {σ : Type} {record : Record σ} {room : Nat}

/-- Whatever is read for a field can be passed over. -/
def FieldsPassedOver (record : Record σ) (room : Nat) : Prop :=
  ∀ field ∈ record.fields, PassedOver (field.read room)

theorem given_of_readFields (passed : record.FieldsPassedOver room) {bound : Nat} {first : Bool}
    {made t : σ} {seen listed : List String} {cs rest left : List Char} {entries : Members}
    (read : record.readFields room bound first made seen cs = .ok ((t, listed), rest))
    (outlined : readEntries overlook bound first cs = .ok (entries, left)) :
    rest = left ∧ (record.given entries).Nodup ∧ ∀ name ∈ record.given entries, name ∉ seen := by
  -- Both go through the same members; the fields that were seen are what the record remembers.
  induction bound generalizing first made seen cs entries with
  | zero => cases read
  | succ bound ih =>
    rw [readFields] at read
    rw [readEntries] at outlined
    obtain ⟨next, found, read⟩ := bind_eq_ok.mp read
    obtain ⟨_, found', outlined⟩ := bind_eq_ok.mp outlined
    cases found.symm.trans found'
    cases next with
    | none =>
      cases read
      cases outlined
      exact ⟨rfl, List.nodup_nil, fun _ member => absurd member List.not_mem_nil⟩
    | some start =>
      obtain ⟨⟨key, _⟩, string, read⟩ := bind_eq_ok.mp read
      obtain ⟨⟨_, _⟩, string', outlined⟩ := bind_eq_ok.mp outlined
      cases string.symm.trans string'
      obtain ⟨⟨⟨⟩, after⟩, colon', outlined⟩ := bind_eq_ok.mp outlined
      obtain ⟨⟨v, _⟩, overlooked, outlined⟩ := bind_eq_ok.mp outlined
      obtain ⟨⟨others, _⟩, later, same⟩ := bind_eq_ok.mp outlined
      cases same
      dsimp only at read
      split at read
      next unknown =>
        obtain ⟨⟨⟨⟩, _⟩, colon, read⟩ := bind_eq_ok.mp read
        cases colon.symm.trans colon'
        obtain ⟨⟨⟨⟩, _⟩, skipped, read⟩ := bind_eq_ok.mp read
        obtain ⟨_, skipped', same⟩ := bind_eq_ok.mp overlooked
        cases skipped.symm.trans skipped'
        cases same
        have same : record.given ((String.ofList key, .null) :: others) = record.given others := by
          simp [given, unknown]
        rw [same]
        exact ih read later
      next field known =>
        split at read
        · cases read
        next fresh =>
          obtain ⟨⟨⟨⟩, _⟩, colon, read⟩ := bind_eq_ok.mp read
          cases colon.symm.trans colon'
          obtain ⟨⟨set, _⟩, here, read⟩ := bind_eq_ok.mp read
          cases (overlook_of_read (passed field (field?_stands known).1) here).symm.trans overlooked
          have more : record.given ((String.ofList key, .null) :: others) =
              field.name :: record.given others := by
            simp [given, known]
          obtain ⟨same, once, unseen⟩ := ih read later
          have unlisted : field.name ∉ seen := by simpa using fresh
          refine ⟨same, ?_, ?_⟩
          · rw [more]
            exact List.nodup_cons.mpr ⟨fun again => unseen _ again (List.mem_cons_self ..), once⟩
          · rw [more]
            refine List.forall_mem_cons.mpr ⟨unlisted, fun name member => ?_⟩
            exact fun old => unseen name member (List.mem_cons_of_mem _ old)

/-- A text with two keys for one field is not read, whatever its values are. -/
theorem parse_error_of_keys (passed : ∀ room, record.FieldsPassedOver room) {a b : String}
    {field : Field σ} (a_found : record.field? a = some field)
    (b_found : record.field? b = some field) (different : a ≠ b) {text : String}
    {listed : List String} (object : objectKeys text = .ok listed) (a_listed : a ∈ listed)
    (b_listed : b ∈ listed) : ∃ fault, record.parse text = .error fault := by
  cases outcome : record.parse text with
  | error fault => exact ⟨fault, rfl⟩
  | ok made =>
    -- otherwise the members that were read are those of the keys, each for another field
    unfold objectKeys at object
    split at object
    next start opened =>
      obtain ⟨entries, whole, rfl⟩ := map_eq_ok.mp object
      obtain ⟨⟨_, _⟩, entered, whole⟩ := bind_eq_ok.mp whole
      obtain ⟨⟨⟩, -, same⟩ := bind_eq_ok.mp whole
      cases same
      obtain ⟨⟨_, _⟩, outlined, entered⟩ := bind_eq_ok.mp entered
      obtain ⟨⟨⟨⟩, _⟩, -, same⟩ := bind_eq_ok.mp entered
      cases same
      obtain ⟨⟨_, _⟩, read, -⟩ := bind_eq_ok.mp outcome
      rw [Record.read, opened] at read
      obtain ⟨room, -, read⟩ := bind_eq_ok.mp read
      obtain ⟨⟨⟨_, _⟩, _⟩, fields, -⟩ := bind_eq_ok.mp read
      obtain ⟨-, once, -⟩ := given_of_readFields (passed room) fields outlined
      exact absurd (given_once once a_found b_found a_listed b_listed) different
    next => cases object

/-- Nor is a value with two keys for one field. -/
theorem ofJson_error_of_keys {a b : String} {field : Field σ}
    (a_found : record.field? a = some field) (b_found : record.field? b = some field)
    (different : a ≠ b) {members : Members} (a_listed : a ∈ keys members)
    (b_listed : b ∈ keys members) :
    ∃ mismatch, record.ofJson (.obj members) = .error mismatch := by
  cases outcome : record.ofJson (.obj members) with
  | error mismatch => exact ⟨mismatch, rfl⟩
  | ok made =>
    obtain ⟨-, once, -⟩ := ofMembers_isOk_iff.mp ⟨made, outcome⟩
    exact absurd (given_once once a_found b_found a_listed b_listed) different

end Record

end ServerForge.Json
