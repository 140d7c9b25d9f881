import ServerForge.Proofs.ObjectKeys
import ServerForge.Proofs.RecordTexts
import ServerForge.Requirements

/-! Requirements that are written and read again. Main statement: from their text or as a value, and
under either key for the operations, requirements are read as they were, in whatever order their
members stand and whatever others there are; but not if both keys are there. -/
namespace ServerForge

namespace Json

/-! ## Members that are gathered -/

theorem rereadMembers_eq_map (members : Members) :
    rereadMembers members = members.map fun member => (member.1, member.2.reread) := by
  induction members with
  | nil => rfl
  | cons member members ih => rw [rereadMembers, List.map_cons, ih]

theorem insertAll_ordered (members : Members) {into : Members} (ordered : KeysInOrder into) :
    KeysInOrder (insertAll members into) := by
  induction members generalizing into with
  | nil => exact ordered
  | cons member members ih => exact ih (ordered.insert member.1 member.2)

theorem KeysInOrder.nodup {members : Members} (ordered : KeysInOrder members) :
    (keys members).Nodup :=
  List.pairwise_map.mpr (ordered.imp ne_of_lt)

/-- Members with keys of their own are gathered as they are, up to their order. -/
theorem filter_insertAll_perm {p : String → Bool} {members : Members}
    (distinct : (keys (members.filter fun member => p member.1)).Nodup) :
    ((insertAll members []).filter fun member => p member.1).Perm
      (members.filter fun member => p member.1) := by
  have single := (insertAll_ordered members List.Pairwise.nil).nodup
  refine (List.perm_ext_iff_of_nodup (single.of_map _ |>.filter _) (distinct.of_map _)).mpr ?_
  rintro ⟨key, v⟩
  rw [List.mem_filter, List.mem_filter]
  refine and_congr_left fun kept => ?_
  have reversed := members.reverse_perm.filter fun member => p member.1
  have last : members.reverse.lookup key = (members.filter fun member => p member.1).lookup key := by
    rw [← Lookup.lookup_filter kept members.reverse, Lookup.lookup_perm distinct reversed]
  rw [← lookup_eq_some_iff single, lookup_insertAll_last, last, List.lookup_nil, Option.or_none,
    lookup_eq_some_iff distinct, List.mem_filter]
  exact and_iff_left kept

/-! ## Values that a text gives back -/

/-- The value comes back from the text of an object that it is a member of. -/
structure Restored (v : Json) : Prop where
  ordered : Ordered v
  inRange : v.inRange = true
  exact : v.floatless = true
  shallow : v.depth ≤ 126

theorem texts_restored (held : List String) : Restored (texts held) := by
  have items : inRangeItems (held.map .str) = true ∧ floatlessItems (held.map .str) = true ∧
      depthItems (held.map .str) = 0 := by
    induction held with
    | nil => exact ⟨rfl, rfl, rfl⟩
    | cons text held ih =>
      simpa [inRangeItems, floatlessItems, depthItems, Json.inRange, floatless, depth] using ih
  refine ⟨.arr fun item member => ?_, items.1, items.2.1, ?_⟩
  · obtain ⟨text, -, rfl⟩ := List.mem_map.mp member
    exact .str text
  · rw [texts, depth, items.2.2]
    decide

theorem optional_restored {α : Type} {write : α → Json} {given : Option α}
    (each : ∀ a, given = some a → Restored (write a)) :
    Restored ((given.map write).getD .null) := by
  cases given with
  | none => exact ⟨.null, rfl, rfl, Nat.zero_le _⟩
  | some a => exact each a rfl

theorem rereadMembers_restored {members : Members}
    (restored : ∀ member ∈ members, Restored member.2) : rereadMembers members = members := by
  rw [rereadMembers_eq_map]
  refine (List.map_congr_left fun member inside => ?_).trans (List.map_id _)
  obtain ⟨ordered, -, exact, -⟩ := restored member inside
  rw [reread_eq_self ordered exact]
  rfl

end Json

namespace Requirements

open Json

/-! ## What is written -/

/-- The members that requirements are written with, with this key for the operations. -/
def written (key : String) (r : Requirements) : Members := [
  ("purpose", (r.purpose.map .str).getD .null),
  (key, (r.operations.map texts).getD .null),
  ("config", (r.config.map .obj).getD .null),
  ("dependencies", (r.dependencies.map texts).getD .null)]

theorem toJson_eq (r : Requirements) : r.toJson = .obj (r.written "tools") := rfl

/-- The keys that are not passed over. -/
def ownKeys : List String := ["purpose", "tools", "operations", "config", "dependencies"]

def own (members : Members) : Members := members.filter fun member => member.1 ∈ ownKeys

/-- The settings are a map as reading gives one, of whole numbers only, and leave room in a text for
the object around them. -/
def Exact (r : Requirements) : Prop :=
  ∀ settings, r.config = some settings → Restored (.obj settings)

theorem written_restored {r : Requirements} (exact : r.Exact) (key : String) :
    ∀ member ∈ r.written key, Restored member.2 := by
  simp only [written, List.forall_mem_cons]
  exact ⟨optional_restored fun text _ => ⟨.str text, rfl, rfl, Nat.zero_le _⟩,
    optional_restored fun held _ => texts_restored held, optional_restored exact,
    optional_restored fun held _ => texts_restored held, nofun⟩

/-! ## The record -/

theorem isSome_field?_iff (key : String) : (record.field? key).isSome = true ↔ key ∈ ownKeys := by
  rw [Record.field?, List.find?_isSome]
  simp only [record, List.mem_cons, List.not_mem_nil, or_false, exists_eq_or_imp, exists_eq_left,
    Field.of, ownKeys, Bool.or_eq_true, beq_iff_eq, List.contains_nil, Bool.false_eq_true,
    List.contains_cons, eq_comm (a := key), or_assoc]

theorem known_eq_own (members : Members) : record.known members = own members :=
  List.filter_congr fun member _ => by
    rw [Bool.eq_iff_iff, decide_eq_true_eq, isSome_field?_iff]

theorem record_commutes : record.FieldsCommute := by
  intro a a_member b b_member different v w set put given held s
  simp only [record, List.mem_cons, List.not_mem_nil, or_false] at a_member b_member
  rcases a_member with rfl | rfl | rfl | rfl <;> rcases b_member with rfl | rfl | rfl | rfl
  all_goals
    obtain ⟨_, -, rfl⟩ := Field.of_ofJson_eq_ok.mp given
    obtain ⟨_, -, rfl⟩ := Field.of_ofJson_eq_ok.mp held
    first
      | rfl
      | exact absurd rfl different

theorem record_follows (s : Spacing) (room : Nat) : record.FieldsFollow s room := by
  intro field member
  simp only [record, List.mem_cons, List.not_mem_nil, or_false] at member
  rcases member with rfl | rfl | rfl | rfl
  · exact Field.of_follows (Codec.optional_follows Codec.text_follows)
  · exact Field.of_follows (Codec.optional_follows (Codec.list_follows fun _ => Codec.text_follows))
  · exact Field.of_follows (Codec.optional_follows Codec.members_follows)
  · exact Field.of_follows (Codec.optional_follows (Codec.list_follows fun _ => Codec.text_follows))

theorem record_passedOver (room : Nat) : record.FieldsPassedOver room := by
  intro field member
  simp only [record, List.mem_cons, List.not_mem_nil, or_false] at member
  rcases member with rfl | rfl | rfl | rfl
  · exact Field.of_passedOver (Codec.optional_passedOver (Codec.text_passedOver room))
  · exact Field.of_passedOver
      (Codec.optional_passedOver (Codec.list_passedOver Codec.text_passedOver room))
  · exact Field.of_passedOver (Codec.optional_passedOver (Codec.members_passedOver room))
  · exact Field.of_passedOver
      (Codec.optional_passedOver (Codec.list_passedOver Codec.text_passedOver room))

theorem ofMembers_written (r : Requirements) {key : String}
    (spelled : key ∈ ["tools", "operations"]) :
    record.ofMembers record.start [] (r.written key) = .ok r := by
  have purpose := Codec.optional_ofJson .text .str (fun _ => rfl) (fun _ => nofun) r.purpose
  have operations := Codec.optional_ofJson (.list .text) texts Codec.texts_ofJson (fun _ => nofun)
    r.operations
  have config := Codec.optional_ofJson .members .obj (fun _ => rfl) (fun _ => nofun) r.config
  have dependencies := Codec.optional_ofJson (.list .text) texts Codec.texts_ofJson (fun _ => nofun)
    r.dependencies
  rcases List.mem_pair.mp spelled with rfl | rfl
  all_goals
    refine (Record.ofMembers_known rfl).mpr
      ⟨nofun, _, Field.of_ofJson_eq_ok.mpr ⟨_, purpose, rfl⟩, ?_⟩
    refine (Record.ofMembers_known rfl).mpr
      ⟨by decide, _, Field.of_ofJson_eq_ok.mpr ⟨_, operations, rfl⟩, ?_⟩
    refine (Record.ofMembers_known rfl).mpr
      ⟨by decide, _, Field.of_ofJson_eq_ok.mpr ⟨_, config, rfl⟩, ?_⟩
    exact (Record.ofMembers_known rfl).mpr
      ⟨by decide, _, Field.of_ofJson_eq_ok.mpr ⟨_, dependencies, rfl⟩, rfl⟩

/-! ## Members in any order, with others -/

section

variable {r : Requirements} {key : String} (spelled : key ∈ ["tools", "operations"])
  {members : Members} (holds : (own members).Perm (r.written key))

include spelled holds

theorem ofJson_of_holds : record.ofJson (.obj members) = .ok r := by
  rw [Record.ofJson, Record.ofMembers_eq_known, known_eq_own]
  exact Record.ofMembers_perm record_commutes holds.symm (ofMembers_written r spelled)

omit spelled in
theorem own_rereadMembers (exact : r.Exact) :
    (own (rereadMembers members)).Perm (r.written key) := by
  have swapped : own (rereadMembers members) = rereadMembers (own members) := by
    rw [rereadMembers_eq_map, rereadMembers_eq_map, own, own, List.filter_map]
    rfl
  have same := rereadMembers_restored (written_restored exact key)
  rw [swapped, ← same, rereadMembers_eq_map, rereadMembers_eq_map]
  exact holds.map _

omit spelled in
theorem restored_of_own (exact : r.Exact) {member : String × Json} (inside : member ∈ members)
    (isOwn : member.1 ∈ ownKeys) : Restored member.2 := by
  have listed : member ∈ own members := List.mem_filter.mpr ⟨inside, decide_eq_true isOwn⟩
  exact written_restored exact key member (holds.mem_iff.mp listed)

/-- Members that are passed over may be of any depth. -/
theorem parse_of_holds (exact : r.Exact)
    (inRange : ∀ member ∈ members, member.1 ∉ ownKeys → member.2.inRange = true) :
    record.parse (compact (.obj members)) = .ok r := by
  have readable : record.Readable 126 members := by
    intro member inside
    by_cases isOwn : member.1 ∈ ownKeys
    · have restored := restored_of_own holds exact inside isOwn
      exact ⟨restored.inRange, fun _ => restored.shallow⟩
    · exact ⟨inRange member inside isOwn,
        fun stands => absurd ((isSome_field?_iff member.1).mp stands) isOwn⟩
  exact Record.parse_compact (record_follows .compact 126) readable
    (ofJson_of_holds spelled (own_rereadMembers holds exact))

/-- If no other member is too deep, the text can be read as a value first. -/
theorem parse_value_of_holds (exact : r.Exact)
    (inRange : ∀ member ∈ members, member.1 ∉ ownKeys → member.2.inRange = true)
    (shallow : ∀ member ∈ members, member.1 ∉ ownKeys → member.2.depth ≤ 126) :
    ∃ v, Json.parse (compact (.obj members)) = .ok v ∧ record.ofJson v = .ok r := by
  have fitting : fits depthLimit (.obj members) = true := by
    refine List.all_eq_true.mpr fun member inside => (fits_iff 126 member.2).mpr ?_
    by_cases isOwn : member.1 ∈ ownKeys
    · have restored := restored_of_own holds exact inside isOwn
      exact ⟨restored.shallow, restored.inRange⟩
    · exact ⟨shallow member inside isOwn, inRange member inside isOwn⟩
  refine ⟨_, parse_compact fitting, ?_⟩
  have kept := own_rereadMembers holds exact
  have distinct : (keys (own (rereadMembers members))).Nodup := by
    rw [keys, (kept.map _).nodup_iff]
    rcases List.mem_pair.mp spelled with rfl | rfl <;> simp [written]
  exact ofJson_of_holds spelled
    ((filter_insertAll_perm (p := fun key => decide (key ∈ ownKeys)) distinct).trans kept)

end

/-- Requirements are read as they were written, from their text and as a value, with the operations
under either key, with the members in any order and with any others among them; but nothing is read
of an object with both keys. -/
theorem written_requirements_are_read (r : Requirements) (exact : r.Exact) :
    (record.parse r.toJson.compact = .ok r ∧ record.ofJson r.toJson = .ok r) ∧
    (∀ key ∈ ["tools", "operations"], ∀ members : Members, (own members).Perm (r.written key) →
      record.ofJson (.obj members) = .ok r ∧
      ((∀ member ∈ members, member.1 ∉ ownKeys → member.2.inRange = true) →
        record.parse (compact (.obj members)) = .ok r ∧
        ((∀ member ∈ members, member.1 ∉ ownKeys → member.2.depth ≤ 126) →
          ∃ v, Json.parse (compact (.obj members)) = .ok v ∧ record.ofJson v = .ok r))) ∧
    (∀ text listed, objectKeys text = .ok listed → "tools" ∈ listed → "operations" ∈ listed →
      ∃ fault, record.parse text = .error fault) ∧
    (∀ members, "tools" ∈ keys members → "operations" ∈ keys members →
      ∃ mismatch, record.ofJson (.obj members) = .error mismatch) := by
  have itself : own (r.written "tools") = r.written "tools" := by
    simp [own, written, ownKeys]
  have tools : "tools" ∈ ["tools", "operations"] := by simp
  rw [toJson_eq]
  refine ⟨⟨?_, ofJson_of_holds tools (itself ▸ .rfl)⟩, fun key spelled members holds => ?_, ?_, ?_⟩
  · refine parse_of_holds tools (itself ▸ .rfl) exact fun member inside other => ?_
    exact (written_restored exact "tools" member inside).inRange
  · exact ⟨ofJson_of_holds spelled holds, fun inRange =>
      ⟨parse_of_holds spelled holds exact inRange, parse_value_of_holds spelled holds exact inRange⟩⟩
  · intro text listed object first second
    exact Record.parse_error_of_keys record_passedOver rfl rfl (by decide) object first second
  · intro members first second
    exact Record.ofJson_error_of_keys rfl rfl (by decide) first second

/-- A quotation mark, an empty list and settings down to the least number. -/
def quotedRequirements : Requirements where
  purpose := some "say \"hi\"\n"
  operations := some []
  config := some [("a", .arr [.num (.int (-9223372036854775808)), .obj []]), ("b", .null)]
  dependencies := none

/-- The operations are asked for by their other name, between members that nobody knows. -/
theorem quoted_requirements_are_read :
    quotedRequirements.Exact ∧
    record.parse (compact (.obj (("tool", .arr [.bool true]) ::
      quotedRequirements.written "operations" ++ [("tool", .num (.int 2))]))) =
        .ok quotedRequirements ∧
    (∃ fault, record.parse
      "\x7b\"tools\": [], \"x\": [1e999, \x7b\x7d], \"operations\": null\x7d" = .error fault) := by
  have exact : quotedRequirements.Exact := by
    rintro settings ⟨⟩
    have sorted : "a" < "b" := by decide
    refine ⟨.obj (List.pairwise_pair.mpr sorted) ?_, by decide, by decide, by decide⟩
    refine List.forall_mem_cons.mpr ⟨.arr ?_, List.forall_mem_singleton.mpr .null⟩
    exact List.forall_mem_cons.mpr ⟨.num _, List.forall_mem_singleton.mpr (.obj .nil nofun)⟩
  obtain ⟨-, read, rejected, -⟩ := written_requirements_are_read quotedRequirements exact
  have holds : (own (("tool", .arr [.bool true]) ::
      quotedRequirements.written "operations" ++ [("tool", .num (.int 2))])).Perm
        (quotedRequirements.written "operations") := by
    simp [own, written, ownKeys]
  refine ⟨exact, ((read "operations" (by simp) _ holds).2 ?_).1, ?_⟩
  · simp [written, ownKeys, Json.inRange, inRangeItems, Number.inRange]
  · exact rejected _ ["tools", "x", "operations"] (by rfl) (by simp) (by simp)

end Requirements

end ServerForge
