import Mathlib.Data.List.Pairwise
import ServerForge.Lookup
import ServerForge.Proofs.ManifestReading
import ServerForge.Proofs.ReadValues

/-! Records read from a value. Main statement: an object is read as a record exactly if each of its
members that stands for a field can be read, no field is given twice, and none that may not be left
out is. -/
namespace ServerForge.Json

theorem lookup_eq_some_iff {members : Members} (distinct : (keys members).Nodup) {key : String}
    {v : Json} : members.lookup key = some v ↔ (key, v) ∈ members :=
  Lookup.lookup_eq_some_iff_mem distinct

theorem mem_keys_iff {members : Members} {key : String} :
    key ∈ keys members ↔ ∃ v, members.lookup key = some v := by
  induction members with
  | nil => simp [keys]
  | cons member members ih =>
    obtain ⟨name, held⟩ := member
    rw [lookup_cons_if, keys, List.map_cons, List.mem_cons]
    split
    next same => simp [same]
    next other => exact (or_iff_right other).trans ih

/-- The last member of a key is the one that stays. -/
theorem lookup_insertAll_last (members into : Members) (name : String) :
    (insertAll members into).lookup name = (members.reverse.lookup name).or (into.lookup name) := by
  induction members generalizing into with
  | nil => rfl
  | cons member members ih =>
    obtain ⟨key, held⟩ := member
    have step : insertAll ((key, held) :: members) into =
        insertAll members (insert key held into) := rfl
    rw [step, ih, lookup_insert, List.reverse_cons, List.lookup_append, lookup_cons_if,
      Option.or_assoc]
    split <;> rfl

theorem lookup_insertAll {members into : Members} (distinct : (keys members).Nodup)
    (name : String) :
    (insertAll members into).lookup name = (members.lookup name).or (into.lookup name) := by
  rw [lookup_insertAll_last, Lookup.lookup_perm distinct members.reverse_perm]

theorem get?_object {members : Members} (distinct : (keys members).Nodup) (name : String) :
    (object members).get? name = members.lookup name :=
  (lookup_insertAll distinct name).trans Option.or_none

/-! ## Codecs -/

/-- The value can be read. -/
def Codec.Reads (codec : Codec α) (v : Json) : Prop := ∃ value, codec.ofJson v = .ok value

def Field.Reads (field : Field σ) (v : Json) : Prop := ∃ set, field.ofJson v = .ok set

theorem Codec.text_reads {v : Json} : text.Reads v ↔ ∃ value, v = .str value := by
  constructor
  · rintro ⟨value, read⟩
    cases v with
    | str held => exact ⟨held, rfl⟩
    | _ => cases read
  · rintro ⟨value, rfl⟩
    exact ⟨value, rfl⟩

theorem Codec.members_reads {v : Json} : members.Reads v ↔ ∃ held, v = .obj held := by
  constructor
  · rintro ⟨value, read⟩
    cases v with
    | obj held => exact ⟨held, rfl⟩
    | _ => cases read
  · rintro ⟨held, rfl⟩
    exact ⟨held, rfl⟩

theorem map_isOk {α β : Type} {f : α → β} {outcome : Except Mismatch α} :
    (∃ b, f <$> outcome = .ok b) ↔ ∃ a, outcome = .ok a := by
  simp only [map_eq_ok]
  exact ⟨fun ⟨_, a, made, _⟩ => ⟨a, made⟩, fun ⟨a, made⟩ => ⟨f a, a, made, rfl⟩⟩

theorem Codec.optional_reads {codec : Codec α} {v : Json} :
    codec.optional.Reads v ↔ v = .null ∨ codec.Reads v := by
  cases v with
  | null => exact ⟨fun _ => .inl rfl, fun _ => ⟨none, rfl⟩⟩
  | _ => exact map_isOk.trans ⟨.inr, fun reads => reads.resolve_left nofun⟩

theorem Codec.list_reads {codec : Codec α} {v : Json} :
    codec.list.Reads v ↔ ∃ items, v = .arr items ∧ ∀ item ∈ items, codec.Reads item := by
  have each (items : List Json) :
      (∃ values, items.mapM codec.ofJson = .ok values) ↔ ∀ item ∈ items, codec.Reads item := by
    induction items with
    | nil => exact ⟨fun _ => nofun, fun _ => ⟨[], rfl⟩⟩
    | cons item items ih =>
      rw [List.forall_mem_cons, ← ih, List.mapM_cons]
      cases read : codec.ofJson item with
      | error mismatch =>
        exact ⟨nofun, fun ⟨⟨value, reads⟩, _⟩ => nomatch read.symm.trans reads⟩
      | ok value => exact map_isOk.trans ⟨fun rest => ⟨⟨value, read⟩, rest⟩, And.right⟩
  constructor
  · rintro ⟨values, read⟩
    cases v with
    | arr items => exact ⟨items, rfl, (each items).mp ⟨values, read⟩⟩
    | _ => cases read
  · rintro ⟨items, rfl, reads⟩
    exact (each items).mpr reads

theorem forall_text_iff {items : List Json} :
    (∀ item ∈ items, ∃ text, item = .str text) ↔ ∃ held, arr items = texts held := by
  constructor
  · intro each
    induction items with
    | nil => exact ⟨[], rfl⟩
    | cons item items ih =>
      obtain ⟨⟨text, rfl⟩, rest⟩ := List.forall_mem_cons.mp each
      obtain ⟨held, same⟩ := ih rest
      cases same
      exact ⟨text :: held, rfl⟩
  · rintro ⟨held, ⟨⟩⟩ item member
    obtain ⟨text, -, same⟩ := List.mem_map.mp member
    exact ⟨text, same.symm⟩

theorem Codec.texts_reads {v : Json} : (list text).Reads v ↔ ∃ held, v = .texts held := by
  rw [list_reads]
  simp only [text_reads, forall_text_iff]
  constructor
  · rintro ⟨items, rfl, held⟩
    exact held
  · rintro ⟨held, rfl⟩
    exact ⟨_, rfl, held, rfl⟩

theorem Codec.texts_ofJson (held : List String) : (list text).ofJson (texts held) = .ok held := by
  change (held.map Json.str).mapM text.ofJson = .ok held
  induction held with
  | nil => rfl
  | cons value held ih =>
    rw [List.map_cons, List.mapM_cons, ih]
    rfl

/-- An optional content that is written as such, or as `null`, is read as it was. -/
theorem Codec.optional_ofJson (codec : Codec α) (write : α → Json)
    (reads : ∀ a, codec.ofJson (write a) = .ok a) (present : ∀ a, write a ≠ .null)
    (given : Option α) : codec.optional.ofJson ((given.map write).getD .null) = .ok given := by
  cases given with
  | none => rfl
  | some a =>
    have inner : codec.optional.ofJson (write a) = some <$> codec.ofJson (write a) := by
      cases written : write a with
      | null => exact absurd written (present a)
      | _ => rfl
    rw [Option.map_some, Option.getD_some, inner, reads]
    rfl

theorem Field.of_ofJson_eq_ok {name : String} {aliases : List String} {presence : Presence}
    {codec : Codec α} {set : α → σ → σ} {v : Json} {made : σ → σ} :
    (Field.of name aliases presence codec set).ofJson v = .ok made ↔
      ∃ value, codec.ofJson v = .ok value ∧ set value = made :=
  map_eq_ok

theorem Field.of_reads {name : String} {aliases : List String} {presence : Presence}
    {codec : Codec α} {set : α → σ → σ} {v : Json} :
    (Field.of name aliases presence codec set).Reads v ↔ codec.Reads v :=
  map_isOk

/-! ## Fields -/

/-- All keys that stand for a field. -/
def Field.spellings (field : Field σ) : List String := field.name :: field.aliases

/-- What the members hold for a field can be read, at most one of them does, and one does if the
field may not be left out. -/
structure Field.Fits (field : Field σ) (members : Members) : Prop where
  readable : ∀ key ∈ field.spellings, ∀ v, members.lookup key = some v → field.Reads v
  once : ∀ a ∈ field.spellings, ∀ b ∈ field.spellings, a ∈ keys members → b ∈ keys members → a = b
  complete : field.presence = .required → ∃ key ∈ field.spellings, key ∈ keys members

/-- A field of one key fits if what the members hold for it can be read. -/
theorem Field.of_fits {name : String} {presence : Presence} {codec : Codec α} {set : α → σ → σ}
    {members : Members} :
    (Field.of name [] presence codec set).Fits members ↔
      (∀ v, members.lookup name = some v → codec.Reads v) ∧
      (presence = .required → name ∈ keys members) := by
  have stands {key : String} : key ∈ (Field.of name [] presence codec set).spellings ↔ key = name :=
    List.mem_singleton
  constructor
  · rintro ⟨readable, -, complete⟩
    refine ⟨fun v held => of_reads.mp (readable name (stands.mpr rfl) v held), fun required => ?_⟩
    obtain ⟨key, is_name, listed⟩ := complete required
    exact stands.mp is_name ▸ listed
  · rintro ⟨readable, complete⟩
    refine ⟨?_, ?_, fun required => ⟨name, stands.mpr rfl, complete required⟩⟩
    · rintro key is_name v held
      exact of_reads.mpr (readable v (stands.mp is_name ▸ held))
    · intro a is_name b is_name' _ _
      exact (stands.mp is_name).trans (stands.mp is_name').symm

/-- A field of two keys fits if, moreover, not both are given. -/
theorem Field.of_fits_alias {name other : String} {presence : Presence} {codec : Codec α}
    {set : α → σ → σ} {members : Members} (apart : name ≠ other)
    (optional : presence ≠ .required) :
    (Field.of name [other] presence codec set).Fits members ↔
      (∀ v, members.lookup name = some v → codec.Reads v) ∧
      (∀ v, members.lookup other = some v → codec.Reads v) ∧
      ¬ (name ∈ keys members ∧ other ∈ keys members) := by
  have stands {key : String} :
      key ∈ (Field.of name [other] presence codec set).spellings ↔ key = name ∨ key = other :=
    List.mem_pair
  constructor
  · rintro ⟨readable, once, -⟩
    refine ⟨fun v held => of_reads.mp (readable name (stands.mpr (.inl rfl)) v held),
      fun v held => of_reads.mp (readable other (stands.mpr (.inr rfl)) v held), ?_⟩
    rintro ⟨first, second⟩
    exact apart (once name (stands.mpr (.inl rfl)) other (stands.mpr (.inr rfl)) first second)
  · rintro ⟨readable, readable', notBoth⟩
    refine ⟨fun key isKey v held => of_reads.mpr ?_, fun a a_key b b_key first second => ?_,
      fun required => absurd required optional⟩
    · rcases stands.mp isKey with rfl | rfl
      · exact readable v held
      · exact readable' v held
    · rcases stands.mp a_key with rfl | rfl <;> rcases stands.mp b_key with rfl | rfl
      · rfl
      · exact absurd ⟨first, second⟩ notBoth
      · exact absurd ⟨second, first⟩ notBoth
      · rfl

/-! ## Records -/

namespace Record

variable {σ : Type} {record : Record σ}

theorem field?_stands {key : String} {field : Field σ} (found : record.field? key = some field) :
    field ∈ record.fields ∧ key ∈ field.spellings := by
  have stands := List.find?_some found
  simp only [Bool.or_eq_true, beq_iff_eq, List.contains_iff_mem] at stands
  refine ⟨List.mem_of_find?_eq_some found, List.mem_cons.mpr (stands.imp_left Eq.symm)⟩

/-- If no key stands for two fields, the field of a key is the one that has it. -/
theorem field?_eq_some_iff (distinct : (record.fields.flatMap Field.spellings).Nodup) {key : String}
    {field : Field σ} :
    record.field? key = some field ↔ field ∈ record.fields ∧ key ∈ field.spellings := by
  refine ⟨field?_stands, fun ⟨member, stands⟩ => ?_⟩
  cases found : record.field? key with
  | none =>
    have missed := List.find?_eq_none.mp found field member
    simp only [Bool.or_eq_true, beq_iff_eq, List.contains_iff_mem] at missed
    exact absurd ((List.mem_cons.mp stands).imp_left Eq.symm) missed
  | some other =>
    obtain ⟨other_mem, other_stands⟩ := field?_stands found
    by_contra different
    have symmetric : Std.Symm (Function.onFun List.Disjoint (Field.spellings (σ := σ))) :=
      ⟨fun _ _ => List.Disjoint.symm⟩
    have disjoint := (List.nodup_flatMap.mp distinct).2.forall other_mem member
      fun same => different (congrArg some same)
    exact disjoint other_stands stands

/-- The fields that the members of an object stand for. -/
def given (record : Record σ) (members : Members) : List String :=
  members.filterMap fun member => (record.field? member.1).map (·.name)

theorem ofMembers_nil {s t : σ} {seen : List String} :
    record.ofMembers s seen [] = .ok t ↔ record.missing? seen = none ∧ s = t := by
  rw [ofMembers]
  cases record.missing? seen with
  | none => exact ⟨fun same => ⟨rfl, Except.ok.inj same⟩, fun ⟨_, same⟩ => congrArg Except.ok same⟩
  | some mismatch => exact ⟨nofun, fun ⟨missing, _⟩ => nomatch missing⟩

theorem ofMembers_unknown {key : String} (unknown : record.field? key = none) (s : σ)
    (seen : List String) (v : Json) (members : Members) :
    record.ofMembers s seen ((key, v) :: members) = record.ofMembers s seen members := by
  rw [ofMembers, unknown]

theorem ofMembers_cons {key : String} {field : Field σ} (known : record.field? key = some field)
    (s : σ) (seen : List String) (v : Json) (members : Members) :
    record.ofMembers s seen ((key, v) :: members) =
      if seen.contains field.name then .error (.duplicateField field.name)
      else field.ofJson v >>= fun set =>
        record.ofMembers (set s) (field.name :: seen) members := by
  rw [ofMembers, known]
  rfl

theorem ofMembers_known {key : String} {field : Field σ} (known : record.field? key = some field)
    {s t : σ} {seen : List String} {v : Json} {members : Members} :
    record.ofMembers s seen ((key, v) :: members) = .ok t ↔
      field.name ∉ seen ∧ ∃ set, field.ofJson v = .ok set ∧
        record.ofMembers (set s) (field.name :: seen) members = .ok t := by
  rw [ofMembers_cons known]
  split
  next old =>
    have listed : field.name ∈ seen := by simpa using old
    exact ⟨nofun, fun both => absurd listed both.1⟩
  next fresh =>
    have unlisted : field.name ∉ seen := by simpa using fresh
    rw [bind_eq_ok]
    exact (and_iff_right unlisted).symm

theorem ofMembers_isOk_iff {s : σ} {seen : List String} {members : Members} :
    (∃ t, record.ofMembers s seen members = .ok t) ↔
      (∀ member ∈ members, ∀ field, record.field? member.1 = some field → field.Reads member.2) ∧
      (record.given members).Nodup ∧ (∀ name ∈ record.given members, name ∉ seen) ∧
      ∀ field ∈ record.fields, field.presence = .required →
        field.name ∈ seen ∨ field.name ∈ record.given members := by
  -- For any fields seen before: each member that is read adds its own field to them.
  induction members generalizing s seen with
  | nil =>
    simp only [ofMembers_nil, missing?, Option.map_eq_none_iff, exists_and_left, exists_eq',
      and_true]
    cases found : record.fields.find? fun field =>
        field.presence = .required && !seen.contains field.name with
    | none =>
      have complete := List.find?_eq_none.mp found
      refine ⟨fun _ => ⟨by simp, by simp [given], by simp [given], ?_⟩, fun _ => rfl⟩
      intro field member required
      exact .inl (by simpa [required] using complete field member)
    | some field =>
      have member := List.mem_of_find?_eq_some found
      obtain ⟨required, fresh⟩ : field.presence = .required ∧ field.name ∉ seen := by
        simpa using List.find?_some found
      refine ⟨nofun, fun ⟨_, _, _, complete⟩ => ?_⟩
      exact absurd ((complete field member required).resolve_right List.not_mem_nil) fresh
  | cons member members ih =>
    obtain ⟨key, v⟩ := member
    cases found : record.field? key with
    | none =>
      have same : record.given ((key, v) :: members) = record.given members := by
        simp [given, found]
      simp only [ofMembers_unknown found, ih, same, List.forall_mem_cons, found, reduceCtorEq,
        false_implies, implies_true, true_and]
    | some field =>
      have more : record.given ((key, v) :: members) = field.name :: record.given members := by
        simp [given, found]
      have step : (∃ t, record.ofMembers s seen ((key, v) :: members) = .ok t) ↔
          field.name ∉ seen ∧ ∃ set, field.ofJson v = .ok set ∧
            ∃ t, record.ofMembers (set s) (field.name :: seen) members = .ok t := by
        simp only [ofMembers_known found]
        exact ⟨fun ⟨t, fresh, set, here, later⟩ => ⟨fresh, set, here, t, later⟩,
          fun ⟨fresh, set, here, t, later⟩ => ⟨t, fresh, set, here, later⟩⟩
      rw [step, more, List.forall_mem_cons, List.forall_mem_cons, List.nodup_cons]
      simp only [ih, List.mem_cons, not_or, found, Option.some.injEq, forall_eq']
      constructor
      · rintro ⟨unseen, set, here, readable, once, fresh, complete⟩
        refine ⟨⟨⟨set, here⟩, readable⟩, ⟨fun again => (fresh _ again).1 rfl, once⟩,
          ⟨unseen, fun name member => (fresh name member).2⟩, fun field member required => ?_⟩
        exact or_left_comm.mp (or_assoc.mp (complete field member required))
      · rintro ⟨⟨⟨set, here⟩, readable⟩, ⟨alone, once⟩, ⟨unseen, fresh⟩, complete⟩
        refine ⟨unseen, set, here, readable, once,
          fun name member => ⟨fun same => alone (same ▸ member), fresh name member⟩,
          fun field member required => ?_⟩
        exact or_assoc.mpr (or_left_comm.mp (complete field member required))

/-! ### The order of the members -/

/-- The members that stand for a field. -/
def known (record : Record σ) (members : Members) : Members :=
  members.filter fun member => (record.field? member.1).isSome

/-- Members that stand for no field make no difference. -/
theorem ofMembers_eq_known (s : σ) (seen : List String) (members : Members) :
    record.ofMembers s seen members = record.ofMembers s seen (record.known members) := by
  induction members generalizing s seen with
  | nil => rfl
  | cons member members ih =>
    obtain ⟨key, v⟩ := member
    cases found : record.field? key with
    | none =>
      rw [ofMembers_unknown found, known, List.filter_cons_of_neg (by simp [found])]
      exact ih s seen
    | some field =>
      rw [known, List.filter_cons_of_pos (by simp [found]), ofMembers_cons found,
        ofMembers_cons found]
      split
      · rfl
      · exact bind_congr fun set => ih (set s) (field.name :: seen)

/-- Only which fields were seen counts, not in which order. -/
theorem ofMembers_congr {s : σ} {seen others : List String}
    (same : ∀ name, name ∈ seen ↔ name ∈ others) (members : Members) :
    record.ofMembers s seen members = record.ofMembers s others members := by
  have contains (name : String) : seen.contains name = others.contains name := by
    rw [Bool.eq_iff_iff, List.contains_iff_mem, List.contains_iff_mem, same]
  induction members generalizing s seen others with
  | nil => simp only [ofMembers, missing?, contains]
  | cons member members ih =>
    obtain ⟨key, v⟩ := member
    cases found : record.field? key with
    | none => rw [ofMembers_unknown found, ofMembers_unknown found, ih same contains]
    | some field =>
      have more (name : String) : name ∈ field.name :: seen ↔ name ∈ field.name :: others := by
        rw [List.mem_cons, List.mem_cons, same]
      rw [ofMembers_cons found, ofMembers_cons found, contains]
      split
      · rfl
      · refine bind_congr fun set => ih more fun name => ?_
        rw [Bool.eq_iff_iff, List.contains_iff_mem, List.contains_iff_mem, more]

/-- Two fields may be put into the record in either order. -/
def FieldsCommute (record : Record σ) : Prop :=
  ∀ a ∈ record.fields, ∀ b ∈ record.fields, a.name ≠ b.name → ∀ v w set put,
    a.ofJson v = .ok set → b.ofJson w = .ok put → ∀ s, set (put s) = put (set s)

theorem ofMembers_swap (commute : record.FieldsCommute) {s t : σ} {seen : List String}
    {first second : String × Json} {members : Members}
    (read : record.ofMembers s seen (first :: second :: members) = .ok t) :
    record.ofMembers s seen (second :: first :: members) = .ok t := by
  obtain ⟨a, v⟩ := first
  obtain ⟨b, w⟩ := second
  cases a_found : record.field? a with
  | none =>
    rw [ofMembers_unknown a_found] at read
    cases b_found : record.field? b with
    | none =>
      rw [ofMembers_unknown b_found] at read
      rwa [ofMembers_unknown b_found, ofMembers_unknown a_found]
    | some field =>
      rw [ofMembers_known b_found] at read ⊢
      simpa only [ofMembers_unknown a_found] using read
  | some field =>
    obtain ⟨fresh, set, given, read⟩ := (ofMembers_known a_found).mp read
    cases b_found : record.field? b with
    | none =>
      rw [ofMembers_unknown b_found] at read ⊢
      exact (ofMembers_known a_found).mpr ⟨fresh, set, given, read⟩
    | some other =>
      obtain ⟨apart, put, held, read⟩ := (ofMembers_known b_found).mp read
      have different : other.name ≠ field.name := fun same =>
        apart (same ▸ List.mem_cons_self ..)
      have unseen : other.name ∉ seen := fun old => apart (List.mem_cons_of_mem _ old)
      refine (ofMembers_known b_found).mpr ⟨unseen, put, held, ?_⟩
      refine (ofMembers_known a_found).mpr ⟨?_, set, given, ?_⟩
      · exact fun old => (List.mem_cons.mp old).elim (different ∘ Eq.symm) fresh
      · have swapped (name : String) : name ∈ other.name :: field.name :: seen ↔
            name ∈ field.name :: other.name :: seen := by
          simp only [List.mem_cons]
          exact or_left_comm
        rwa [commute field (field?_stands a_found).1 other (field?_stands b_found).1 different.symm
          v w set put given held, ← ofMembers_congr swapped]

/-- The order of the members does not matter. -/
theorem ofMembers_perm (commute : record.FieldsCommute) {members others : Members}
    (perm : members.Perm others) {s t : σ} {seen : List String}
    (read : record.ofMembers s seen members = .ok t) :
    record.ofMembers s seen others = .ok t := by
  induction perm generalizing s seen with
  | nil => exact read
  | cons member _ ih =>
    obtain ⟨key, v⟩ := member
    cases found : record.field? key with
    | none =>
      rw [ofMembers_unknown found] at read ⊢
      exact ih read
    | some field =>
      obtain ⟨fresh, set, given, read⟩ := (ofMembers_known found).mp read
      exact (ofMembers_known found).mpr ⟨fresh, set, given, ih read⟩
  | swap => exact ofMembers_swap commute read
  | trans _ _ first second => exact second (first read)

/-- Members that are given only once for each field have one key for it. -/
theorem given_once {members : Members} (once : (record.given members).Nodup) {a b : String}
    {field : Field σ} (a_found : record.field? a = some field)
    (b_found : record.field? b = some field) (a_listed : a ∈ keys members)
    (b_listed : b ∈ keys members) : a = b := by
  obtain ⟨⟨_, v⟩, a_mem, rfl⟩ := List.mem_map.mp a_listed
  obtain ⟨⟨_, w⟩, b_mem, rfl⟩ := List.mem_map.mp b_listed
  have named {key : String} (found : record.field? key = some field) :
      (record.field? key).map (·.name) = some field.name := by
    rw [found]
    rfl
  have symmetric : Std.Symm fun m n : String × Json =>
      ∀ x, (record.field? m.1).map (·.name) = some x →
        ∀ y, (record.field? n.1).map (·.name) = some y → x ≠ y :=
    ⟨fun _ _ unequal x first y second => (unequal y second x first).symm⟩
  have apart := List.pairwise_filterMap.mp (List.nodup_iff_pairwise_ne.mp once)
  by_contra different
  exact apart.forall a_mem b_mem (fun same => different (congrArg Prod.fst same))
    _ (named a_found) _ (named b_found) rfl

section
variable (distinct : (record.fields.flatMap Field.spellings).Nodup)
include distinct

theorem field_eq_of_name {a b : Field σ} (a_mem : a ∈ record.fields) (b_mem : b ∈ record.fields)
    (same : a.name = b.name) : a = b := by
  have found := (field?_eq_some_iff distinct).mpr ⟨a_mem, List.mem_cons_self ..⟩
  rw [same, (field?_eq_some_iff distinct).mpr ⟨b_mem, List.mem_cons_self ..⟩] at found
  exact (Option.some.inj found).symm

theorem name_mem_given {field : Field σ} (member : field ∈ record.fields) {members : Members} :
    field.name ∈ record.given members ↔ ∃ key ∈ field.spellings, key ∈ keys members := by
  unfold given
  rw [List.mem_filterMap]
  constructor
  · rintro ⟨⟨key, v⟩, inside, named⟩
    obtain ⟨other, found, same⟩ := Option.map_eq_some_iff.mp named
    obtain ⟨other_mem, stands⟩ := field?_stands found
    cases field_eq_of_name distinct other_mem member same
    exact ⟨key, stands, List.mem_map_of_mem inside⟩
  · rintro ⟨key, stands, listed⟩
    obtain ⟨⟨_, v⟩, inside, rfl⟩ := List.mem_map.mp listed
    exact ⟨_, inside, by rw [(field?_eq_some_iff distinct).mpr ⟨member, stands⟩]; rfl⟩

theorem given_nodup_iff {members : Members} (single : (keys members).Nodup) :
    (record.given members).Nodup ↔
      ∀ field ∈ record.fields, ∀ a ∈ field.spellings, ∀ b ∈ field.spellings,
        a ∈ keys members → b ∈ keys members → a = b := by
  constructor
  · intro once field member a a_stands b b_stands
    exact given_once once ((field?_eq_some_iff distinct).mpr ⟨member, a_stands⟩)
      ((field?_eq_some_iff distinct).mpr ⟨member, b_stands⟩)
  · intro once
    unfold given
    rw [List.nodup_iff_pairwise_ne, List.pairwise_filterMap]
    refine (List.pairwise_map.mp single).imp_of_mem ?_
    rintro ⟨a, v⟩ ⟨b, w⟩ a_mem b_mem different _ first _ second rfl
    obtain ⟨one, a_found, rfl⟩ := Option.map_eq_some_iff.mp first
    obtain ⟨other, b_found, same⟩ := Option.map_eq_some_iff.mp second
    obtain ⟨one_mem, a_stands⟩ := field?_stands a_found
    obtain ⟨other_mem, b_stands⟩ := field?_stands b_found
    cases field_eq_of_name distinct other_mem one_mem same
    exact different (once one one_mem a a_stands b b_stands (List.mem_map_of_mem a_mem)
      (List.mem_map_of_mem b_mem))

/-- An object is read as a record exactly if its members fit each field. -/
theorem reads_iff_fits {members : Members} (single : (keys members).Nodup) :
    record.codec.Reads (.obj members) ↔ ∀ field ∈ record.fields, field.Fits members := by
  have read : record.codec.Reads (.obj members) ↔
      ∃ t, record.ofMembers record.start [] members = .ok t := Iff.rfl
  rw [read, ofMembers_isOk_iff, given_nodup_iff distinct single]
  constructor
  · rintro ⟨readable, once, -, complete⟩ field member
    refine ⟨fun key stands v held => ?_, once field member, fun required => ?_⟩
    · exact readable (key, v) ((lookup_eq_some_iff single).mp held) field
        ((field?_eq_some_iff distinct).mpr ⟨member, stands⟩)
    · exact (name_mem_given distinct member).mp
        ((complete field member required).resolve_left List.not_mem_nil)
  · intro fits
    refine ⟨fun member inside field found => ?_, fun field member => (fits field member).once,
      by simp, fun field member required => ?_⟩
    · obtain ⟨listed, stands⟩ := field?_stands found
      exact (fits field listed).readable _ stands _ ((lookup_eq_some_iff single).mpr inside)
    · exact .inr ((name_mem_given distinct member).mpr ((fits field member).complete required))

/-- What a field that may not be left out brings about, and no other field undoes, holds of the
record that is read. -/
theorem ofMembers_holds {Q : σ → Prop} {field : Field σ} (member : field ∈ record.fields)
    (required : field.presence = .required)
    (others : ∀ other ∈ record.fields, other.name ≠ field.name → ∀ v set,
      other.ofJson v = .ok set → ∀ s, Q s → Q (set s))
    {members : Members}
    (own : ∀ key ∈ field.spellings, ∀ v, (key, v) ∈ members → ∀ set, field.ofJson v = .ok set →
      ∀ s, Q (set s))
    {s t : σ} {seen : List String} (before : field.name ∈ seen → Q s)
    (read : record.ofMembers s seen members = .ok t) : Q t := by
  induction members generalizing s seen with
  | nil =>
    obtain ⟨complete, rfl⟩ := ofMembers_nil.mp read
    have absent := List.find?_eq_none.mp (Option.map_eq_none_iff.mp complete) field member
    exact before (by simpa [required] using absent)
  | cons listed members ih =>
    obtain ⟨key, v⟩ := listed
    have rest (k) (stands : k ∈ field.spellings) (w) (inside : (k, w) ∈ members) :=
      own k stands w (List.mem_cons_of_mem _ inside)
    cases found : record.field? key with
    | none =>
      rw [ofMembers_unknown found] at read
      exact ih rest before read
    | some other =>
      obtain ⟨other_mem, stands⟩ := field?_stands found
      obtain ⟨-, set, taken, read⟩ := (ofMembers_known found).mp read
      refine ih rest (fun inside => ?_) read
      by_cases same : other.name = field.name
      · cases field_eq_of_name distinct other_mem member same
        exact own key stands v (List.mem_cons_self ..) set taken s
      · exact others other other_mem same v set taken s
          (before ((List.mem_cons.mp inside).resolve_left (Ne.symm same)))

end

end Record

end ServerForge.Json
