import ServerForge.Proofs.RecordValues
import ServerForge.Proofs.ToolAnswers

/-! The schemas in the listing of tools, read as they are meant, against what the tools read. Main
statement: arguments that are valid are read, but for the other key under which operations are
read, and a category is never unknown then. -/
namespace ServerForge

open Json

/-! ## What a schema says of a value -/

/-- The values of a type, for the three types that the schemas name. An object has no two members
of one key. -/
def HasType : String → Json → Prop
  | "string", value => ∃ text, value = .str text
  | "array", value => ∃ items, value = .arr items
  | "object", value => ∃ members, value = .obj members ∧ (keys members).Nodup
  | _, _ => False

/-- What the keywords `type`, `enum`, `required`, `properties` and `items` of a schema say, each of
them if it is there. Others say nothing, and neither does a schema of members it does not name. -/
inductive Validates : Json → Json → Prop where
  | intro {schema value : Json}
      (type : ∀ name, schema.get? "type" = some (.str name) → HasType name value)
      (options : ∀ values, schema.get? "enum" = some (.arr values) → value ∈ values)
      (required : ∀ names members, schema.get? "required" = some (.texts names) →
        value = .obj members → ∀ name ∈ names, name ∈ keys members)
      (properties : ∀ name inner held, (schema.get? "properties").bind (get? name) = some inner →
        value.get? name = some held → Validates inner held)
      (items : ∀ inner held, schema.get? "items" = some inner → value = .arr held →
        ∀ item ∈ held, Validates inner item) :
      Validates schema value

theorem validates_iff {schema value : Json} :
    Validates schema value ↔
      (∀ name, schema.get? "type" = some (.str name) → HasType name value) ∧
      (∀ values, schema.get? "enum" = some (.arr values) → value ∈ values) ∧
      (∀ names members, schema.get? "required" = some (.texts names) →
        value = .obj members → ∀ name ∈ names, name ∈ keys members) ∧
      (∀ name inner held, (schema.get? "properties").bind (get? name) = some inner →
        value.get? name = some held → Validates inner held) ∧
      ∀ inner held, schema.get? "items" = some inner → value = .arr held →
        ∀ item ∈ held, Validates inner item := by
  constructor
  · rintro ⟨type, options, required, properties, items⟩
    exact ⟨type, options, required, properties, items⟩
  · rintro ⟨type, options, required, properties, items⟩
    exact .intro type options required properties items

theorem validates_string {schema value : Json} (type : schema.get? "type" = some (.str "string"))
    (options : schema.get? "enum" = none) :
    Validates schema value ↔ ∃ text, value = .str text := by
  rw [validates_iff, type, options]
  constructor
  · rintro ⟨typed, -⟩
    exact typed _ rfl
  · rintro ⟨text, rfl⟩
    refine ⟨?_, nofun, nofun, nofun, nofun⟩
    rintro _ ⟨⟩
    exact ⟨text, rfl⟩

theorem validates_options {schema value : Json} {names : List String}
    (type : schema.get? "type" = some (.str "string"))
    (options : schema.get? "enum" = some (.texts names)) :
    Validates schema value ↔ ∃ text ∈ names, value = .str text := by
  rw [validates_iff, type, options]
  constructor
  · rintro ⟨-, listed, -⟩
    obtain ⟨text, member, same⟩ := List.mem_map.mp (listed _ rfl)
    exact ⟨text, member, same.symm⟩
  · rintro ⟨text, member, rfl⟩
    refine ⟨?_, ?_, nofun, nofun, nofun⟩
    · rintro _ ⟨⟩
      exact ⟨text, rfl⟩
    · rintro _ ⟨⟩
      exact List.mem_map_of_mem member

theorem validates_list {schema inner value : Json}
    (type : schema.get? "type" = some (.str "array")) (options : schema.get? "enum" = none)
    (items : schema.get? "items" = some inner) :
    Validates schema value ↔ ∃ held, value = .arr held ∧ ∀ item ∈ held, Validates inner item := by
  rw [validates_iff, type, options, items]
  constructor
  · rintro ⟨typed, -, -, -, each⟩
    obtain ⟨held, rfl⟩ := typed _ rfl
    exact ⟨held, rfl, each _ _ rfl rfl⟩
  · rintro ⟨held, rfl, each⟩
    refine ⟨?_, nofun, nofun, nofun, ?_⟩
    · rintro _ ⟨⟩
      exact ⟨held, rfl⟩
    · rintro _ _ ⟨⟩ ⟨⟩
      exact each

theorem texts_injective {a b : List String} (same : texts a = texts b) : a = b :=
  List.map_injective_iff.mpr (fun _ _ => Json.str.inj) (Json.arr.inj same)

/-- An object has what is required, and each member of it that is named is as it should be. -/
theorem validates_object {schema value : Json} {names : List String} {listed : Members}
    (type : schema.get? "type" = some (.str "object")) (options : schema.get? "enum" = none)
    (required : (schema.get? "required").getD (.arr []) = .texts names)
    (properties : ∀ name, (schema.get? "properties").bind (get? name) = listed.lookup name)
    (distinct : (keys listed).Nodup) :
    Validates schema value ↔ ∃ members, value = .obj members ∧ (keys members).Nodup ∧
      (∀ name ∈ names, name ∈ keys members) ∧
      ∀ property ∈ listed, ∀ held, members.lookup property.1 = some held →
        Validates property.2 held := by
  rw [validates_iff, type, options]
  simp only [properties]
  constructor
  · rintro ⟨typed, -, complete, each, -⟩
    obtain ⟨members, rfl, single⟩ := typed _ rfl
    refine ⟨members, rfl, single, ?_, fun property member held found => ?_⟩
    · cases found : schema.get? "required" with
      | none =>
        rw [found] at required
        cases texts_injective (show texts [] = texts names from required)
        nofun
      | some said =>
        rw [found] at required
        exact complete names members (found.trans (congrArg some required)) rfl
    · exact each _ _ held ((lookup_eq_some_iff distinct).mpr member) found
  · rintro ⟨members, rfl, single, complete, each⟩
    refine ⟨?_, nofun, ?_, fun name inner held named found => ?_, nofun⟩
    · rintro _ ⟨⟩
      exact ⟨members, rfl, single⟩
    · rintro other _ found ⟨⟩
      rw [found] at required
      cases texts_injective (show texts other = texts names from required)
      exact complete
    · exact each (name, inner) ((lookup_eq_some_iff distinct).mp named) held found

/-! ## The schemas of the tools -/

namespace Tool

theorem validates_textSchema {description : String} {value : Json} :
    Validates (textSchema description) value ↔ ∃ text, value = .str text := by
  apply validates_string <;>
    simp [textSchema, object, get?, insertAll, lookup_insert]

theorem validates_categorySchema {description : String} {value : Json} :
    Validates (categorySchema description) value ↔ ∃ key ∈ Category.keys, value = .str key := by
  apply validates_options <;>
    simp [categorySchema, object, get?, insertAll, lookup_insert]

theorem validates_textType {value : Json} :
    Validates (object [("type", .str "string")]) value ↔ ∃ text, value = .str text := by
  apply validates_string <;> simp [object, get?, insertAll, lookup_insert]

theorem validates_objectType {value : Json} :
    Validates (object [("type", .str "object")]) value ↔
      ∃ members, value = .obj members ∧ (keys members).Nodup := by
  have listed : Validates (object [("type", .str "object")]) value ↔
      ∃ members, value = .obj members ∧ (keys members).Nodup ∧
        (∀ name ∈ [], name ∈ keys members) ∧
        ∀ property ∈ ([] : Members), ∀ held, members.lookup property.1 = some held →
          Validates property.2 held :=
    validates_object (by rfl) (by rfl) (by rfl) (fun name => by rfl) List.nodup_nil
  simpa using listed

theorem validates_textListSchema {value : Json} :
    Validates textListSchema value ↔ ∃ held, value = .texts held := by
  have list : Validates textListSchema value ↔ ∃ held, value = .arr held ∧
      ∀ item ∈ held, Validates (object [("type", .str "string")]) item := by
    apply validates_list <;> simp [textListSchema, object, get?, insertAll, lookup_insert]
  rw [list]
  simp only [validates_textType, forall_text_iff]
  constructor
  · rintro ⟨items, rfl, held⟩
    exact held
  · rintro ⟨held, rfl⟩
    exact ⟨_, rfl, held, rfl⟩

theorem validates_objectSchema {properties : Members} {required : List String} {value : Json}
    (distinct : (keys properties).Nodup) :
    Validates (objectSchema properties required) value ↔
      ∃ members, value = .obj members ∧ (keys members).Nodup ∧
        (∀ name ∈ required, name ∈ keys members) ∧
        ∀ property ∈ properties, ∀ held, members.lookup property.1 = some held →
          Validates property.2 held := by
  have found : (objectSchema properties required).get? "properties" = some (object properties) := by
    cases required <;> simp [objectSchema, object, get?, insertAll, lookup_insert]
  refine validates_object ?_ ?_ ?_ (fun name => ?_) distinct
  · cases required <;> simp [objectSchema, object, get?, insertAll, lookup_insert]
  · cases required <;> simp [objectSchema, object, get?, insertAll, lookup_insert]
  · cases required <;> simp [objectSchema, object, get?, insertAll, lookup_insert, texts]
  · rw [found, Option.bind_some, get?_object distinct]

theorem validates_requirementsSchema {value : Json} :
    Validates requirementsSchema value ↔
      ∃ members, value = .obj members ∧ (keys members).Nodup ∧
        (∀ held, members.lookup "purpose" = some held → ∃ text, held = .str text) ∧
        (∀ held, members.lookup "tools" = some held → ∃ texts, held = .texts texts) ∧
        (∀ held, members.lookup "config" = some held →
          ∃ inside, held = .obj inside ∧ (keys inside).Nodup) ∧
        ∀ held, members.lookup "dependencies" = some held → ∃ texts, held = .texts texts := by
  let properties : Members := [("purpose", object [("type", .str "string")]),
    ("tools", textListSchema), ("config", object [("type", .str "object")]),
    ("dependencies", textListSchema)]
  have found : requirementsSchema.get? "properties" = some (object properties) := by rfl
  have distinct : (keys properties).Nodup := by decide
  have listed : Validates requirementsSchema value ↔
      ∃ members, value = .obj members ∧ (keys members).Nodup ∧
        (∀ name ∈ [], name ∈ keys members) ∧
        ∀ property ∈ properties, ∀ held, members.lookup property.1 = some held →
          Validates property.2 held := by
    refine validates_object (by rfl) (by rfl) (by rfl) (fun name => ?_) distinct
    rw [found, Option.bind_some, get?_object distinct]
  rw [listed]
  simp only [properties, List.forall_mem_cons, validates_textType, validates_objectType,
    validates_textListSchema]
  simp

/-! ## What the tools read -/

theorem startRecord_distinct : (startRecord.fields.flatMap Field.spellings).Nodup := by decide

theorem askRecord_distinct : (askRecord.fields.flatMap Field.spellings).Nodup := by decide

theorem generateRecord_distinct : (generateRecord.fields.flatMap Field.spellings).Nodup := by decide

theorem saveRecord_distinct : (saveRecord.fields.flatMap Field.spellings).Nodup := by decide

theorem start_reads {arguments : Json} (valid : Validates Tool.start.inputSchema arguments) :
    startRecord.codec.Reads arguments := by
  obtain ⟨members, rfl, single, complete, each⟩ := (validates_objectSchema (by decide)).mp valid
  simp only [List.forall_mem_cons, validates_textSchema, validates_categorySchema] at complete each
  obtain ⟨project, category, -⟩ := each
  refine (Record.reads_iff_fits startRecord_distinct single).mpr ?_
  simp only [startRecord, List.forall_mem_cons, Field.of_fits, Codec.text_reads]
  exact ⟨⟨fun v held => project v held, fun _ => complete.1⟩,
    ⟨fun v held => (category v held).imp fun _ => And.right, fun _ => complete.2.1⟩, by simp⟩

theorem ask_reads {arguments : Json} (valid : Validates Tool.ask.inputSchema arguments) :
    askRecord.codec.Reads arguments := by
  obtain ⟨members, rfl, single, complete, each⟩ := (validates_objectSchema (by decide)).mp valid
  simp only [List.forall_mem_cons, validates_categorySchema] at complete each
  refine (Record.reads_iff_fits askRecord_distinct single).mpr ?_
  simp only [askRecord, List.forall_mem_cons, Field.of_fits, Codec.text_reads]
  exact ⟨⟨fun v held => (each.1 v held).imp fun _ => And.right, fun _ => complete.1⟩, by simp⟩

theorem save_reads {arguments : Json} (valid : Validates Tool.save.inputSchema arguments) :
    saveRecord.codec.Reads arguments := by
  obtain ⟨members, rfl, single, complete, each⟩ := (validates_objectSchema (by decide)).mp valid
  simp only [List.forall_mem_cons, validates_textSchema] at complete each
  refine (Record.reads_iff_fits saveRecord_distinct single).mpr ?_
  simp only [saveRecord, List.forall_mem_cons, Field.of_fits, Codec.text_reads]
  exact ⟨⟨each.1, fun _ => complete.1⟩, ⟨each.2.1, fun _ => complete.2.1⟩, by simp⟩

/-- The key that the schema does not name stands beside the other one for operations, or holds
something else than `null` or a list of texts. -/
def OperationsMisread (requirements : Json) : Prop :=
  ∃ operations, requirements.get? "operations" = some operations ∧
    ((∃ tools, requirements.get? "tools" = some tools) ∨
      operations ≠ .null ∧ ∀ held, operations ≠ .texts held)

theorem requirements_reads_iff {requirements : Json}
    (valid : Validates requirementsSchema requirements) :
    Requirements.record.codec.Reads requirements ↔ ¬ OperationsMisread requirements := by
  have distinct : (Requirements.record.fields.flatMap Field.spellings).Nodup := by decide
  obtain ⟨members, rfl, single, purpose, tools, config, dependencies⟩ :=
    validates_requirementsSchema.mp valid
  rw [Record.reads_iff_fits distinct single]
  simp only [Requirements.record, List.forall_mem_cons, Field.of_fits,
    Field.of_fits_alias (show "tools" ≠ "operations" by decide)
      (show Presence.optional ≠ .required by decide),
    Codec.optional_reads, Codec.text_reads, Codec.texts_reads, Codec.members_reads, mem_keys_iff]
  constructor
  · rintro ⟨-, ⟨-, readable, notBoth⟩, -⟩ ⟨operations, found, beside | ⟨notNull, notTexts⟩⟩
    · exact notBoth ⟨beside, operations, found⟩
    · rcases readable operations found with null | ⟨held, same⟩
      · exact notNull null
      · exact notTexts held same
  · intro readable
    refine ⟨⟨fun v held => .inr (purpose v held), nofun⟩,
      ⟨fun v held => .inr (tools v held), fun v held => ?_, ?_⟩,
      ⟨fun v held => .inr ((config v held).imp fun _ => And.left), nofun⟩,
      ⟨fun v held => .inr (dependencies v held), nofun⟩, by simp⟩
    · by_contra other
      obtain ⟨notNull, notTexts⟩ := not_or.mp other
      exact readable ⟨v, held, .inr ⟨notNull, fun texts same => notTexts ⟨texts, same⟩⟩⟩
    · rintro ⟨beside, operations, found⟩
      exact readable ⟨operations, found, .inl beside⟩

theorem generate_reads_iff {arguments : Json}
    (valid : Validates Tool.generate.inputSchema arguments) :
    generateRecord.codec.Reads arguments ↔
      ∀ requirements, arguments.get? "requirements" = some requirements →
        ¬ OperationsMisread requirements := by
  obtain ⟨members, rfl, single, complete, each⟩ := (validates_objectSchema (by decide)).mp valid
  simp only [List.forall_mem_cons, validates_textSchema, validates_categorySchema] at complete each
  obtain ⟨project, category, requirements, -⟩ := each
  rw [Record.reads_iff_fits generateRecord_distinct single]
  simp only [generateRecord, List.forall_mem_cons, Field.of_fits, Codec.text_reads]
  constructor
  · rintro ⟨-, -, ⟨readable, -⟩, -⟩ held found
    exact (requirements_reads_iff (requirements held found)).mp (readable held found)
  · intro readable
    exact ⟨⟨project, fun _ => complete.1⟩,
      ⟨fun v held => (category v held).imp fun _ => And.right, fun _ => complete.2.1⟩,
      ⟨fun v held => (requirements_reads_iff (requirements v held)).mpr (readable v held), nofun⟩,
      by simp⟩

section
variable {σ : Type} {record : Record σ} (get : σ → String) (set : String → σ → σ)
  (distinct : (record.fields.flatMap Field.spellings).Nodup)
  (category : Field.of "serverType" [] .required .text set ∈ record.fields)
  (put : ∀ key s, get (set key s) = key)
  (others : ∀ other ∈ record.fields, other.name ≠ "serverType" → ∀ v made,
    other.ofJson v = .ok made → ∀ s, get (made s) = get s)
include distinct category put others

/-- The category that was read is the one that the members hold. -/
theorem category_held {members : Members} (single : (keys members).Nodup) {t : σ}
    (read : record.ofJson (.obj members) = .ok t) :
    members.lookup "serverType" = some (.str (get t)) := by
  refine Record.ofMembers_holds (Q := fun s => members.lookup "serverType" = some (.str (get s)))
    distinct category rfl ?_ ?_ (fun seen => absurd seen List.not_mem_nil) read
  · intro other member different v made taken s before
    rw [others other member different v made taken s]
    exact before
  · intro key spelled v member made taken s
    obtain rfl : key = "serverType" := List.mem_singleton.mp spelled
    obtain ⟨name, given, rfl⟩ := Field.of_ofJson_eq_ok.mp taken
    obtain ⟨text, rfl⟩ := Codec.text_reads.mp ⟨name, given⟩
    cases given
    rw [put]
    exact (lookup_eq_some_iff single).mpr member

end

theorem start_category_held {members : Members} (single : (keys members).Nodup)
    {a : StartArguments} (read : startRecord.ofJson (.obj members) = .ok a) :
    members.lookup "serverType" = some (.str a.category) := by
  refine category_held (·.category) (fun category a => { a with category })
    startRecord_distinct (by simp [startRecord]) (fun _ _ => rfl) ?_ single read
  intro other listed different v made taken s
  simp only [startRecord, List.mem_cons, List.not_mem_nil, or_false] at listed
  rcases listed with rfl | rfl
  · obtain ⟨_, -, rfl⟩ := Field.of_ofJson_eq_ok.mp taken
    rfl
  · exact absurd rfl different

theorem start_category {arguments : Json} {a : StartArguments}
    (valid : Validates Tool.start.inputSchema arguments)
    (read : startRecord.ofJson arguments = .ok a) : a.category ∈ Category.keys := by
  obtain ⟨members, rfl, single, -, each⟩ := (validates_objectSchema (by decide)).mp valid
  simp only [List.forall_mem_cons, validates_categorySchema] at each
  obtain ⟨key, listed, same⟩ := each.2.1 _ (start_category_held single read)
  rwa [Json.str.inj same]

theorem ask_category_held {members : Members} (single : (keys members).Nodup)
    {a : AskArguments} (read : askRecord.ofJson (.obj members) = .ok a) :
    members.lookup "serverType" = some (.str a.category) := by
  refine category_held (·.category) (fun category a => { a with category })
    askRecord_distinct (by simp [askRecord]) (fun _ _ => rfl) ?_ single read
  intro other listed different
  simp only [askRecord, List.mem_cons, List.not_mem_nil, or_false] at listed
  exact absurd (congrArg Field.name listed) different

theorem ask_category {arguments : Json} {a : AskArguments}
    (valid : Validates Tool.ask.inputSchema arguments)
    (read : askRecord.ofJson arguments = .ok a) : a.category ∈ Category.keys := by
  obtain ⟨members, rfl, single, -, each⟩ := (validates_objectSchema (by decide)).mp valid
  simp only [List.forall_mem_cons, validates_categorySchema] at each
  obtain ⟨key, listed, same⟩ := each.1 _ (ask_category_held single read)
  rwa [Json.str.inj same]

theorem generate_category_held {members : Members} (single : (keys members).Nodup)
    {a : GenerateArguments} (read : generateRecord.ofJson (.obj members) = .ok a) :
    members.lookup "serverType" = some (.str a.category) := by
  refine category_held (·.category) (fun category a => { a with category })
    generateRecord_distinct (by simp [generateRecord]) (fun _ _ => rfl) ?_ single read
  intro other listed different v made taken s
  simp only [generateRecord, List.mem_cons, List.not_mem_nil, or_false] at listed
  rcases listed with rfl | rfl | rfl
  · obtain ⟨_, -, rfl⟩ := Field.of_ofJson_eq_ok.mp taken
    rfl
  · exact absurd rfl different
  · obtain ⟨_, -, rfl⟩ := Field.of_ofJson_eq_ok.mp taken
    rfl

theorem generate_category {arguments : Json} {a : GenerateArguments}
    (valid : Validates Tool.generate.inputSchema arguments)
    (read : generateRecord.ofJson arguments = .ok a) : a.category ∈ Category.keys := by
  obtain ⟨members, rfl, single, -, each⟩ := (validates_objectSchema (by decide)).mp valid
  simp only [List.forall_mem_cons, validates_categorySchema] at each
  obtain ⟨key, listed, same⟩ := each.2.1 _ (generate_category_held single read)
  rwa [Json.str.inj same]

/-- The category that a call names is known. -/
def Call.CategoryKnown : Call → Prop
  | .start _ category | .ask category | .generate _ category _ => category ∈ Category.keys
  | .list | .save .. => True

theorem categoryKnown_of_valid {tool : Tool} {arguments : Json} {call : Call}
    (valid : Validates tool.inputSchema arguments)
    (read : Call.ofJson tool arguments = .ok call) : call.CategoryKnown := by
  cases tool with
  | start =>
    obtain ⟨a, made, rfl⟩ := map_eq_ok.mp read
    exact start_category valid made
  | ask =>
    obtain ⟨a, made, rfl⟩ := map_eq_ok.mp read
    exact ask_category valid made
  | generate =>
    obtain ⟨a, made, rfl⟩ := map_eq_ok.mp read
    exact generate_category valid made
  | list =>
    cases read
    trivial
  | save =>
    obtain ⟨a, made, rfl⟩ := map_eq_ok.mp read
    trivial

theorem reads_of_valid {tool : Tool} {arguments : Json}
    (valid : Validates tool.inputSchema arguments) :
    (∃ call, Call.ofJson tool arguments = .ok call) ↔ ∀ requirements, tool = .generate →
      arguments.get? "requirements" = some requirements → ¬ OperationsMisread requirements := by
  cases tool with
  | start => exact ⟨fun _ => nofun, fun _ => map_isOk.mpr (start_reads valid)⟩
  | ask => exact ⟨fun _ => nofun, fun _ => map_isOk.mpr (ask_reads valid)⟩
  | generate =>
    exact map_isOk.trans ((generate_reads_iff valid).trans
      ⟨fun readable requirements _ => readable requirements,
        fun readable requirements => readable requirements rfl⟩)
  | list => exact ⟨fun _ => nofun, fun _ => ⟨.list, rfl⟩⟩
  | save => exact ⟨fun _ => nofun, fun _ => map_isOk.mpr (save_reads valid)⟩

end Tool

namespace Server

section
variable {World : Type} [Files.Access (StateM World)]

theorem Fails.ne_unknownCategory {server : Server} {world : World} {call : Tool.Call}
    {failure : Failure} (fails : server.Fails world call failure) (known : call.CategoryKnown)
    (key : String) : failure ≠ .unknownCategory key := by
  cases fails with
  | start unknown | ask unknown | generate unknown => exact absurd known unknown
  | _ => nofun

/-- Arguments that are valid by the schema of their tool are read, unless operations are given
under the key that the schema does not name, and are no list of texts or are given twice. No answer
to them says that a category is unknown. -/
theorem valid_arguments_are_read {tool : Tool} {arguments : Json}
    (valid : Validates tool.inputSchema arguments) (server : Server) (world : World) :
    ((∃ call, Tool.Call.ofJson tool arguments = .ok call) ↔
      ¬ (tool = .generate ∧ ∃ requirements, arguments.get? "requirements" = some requirements ∧
        Tool.OperationsMisread requirements)) ∧
    ∀ key, ((server.callTool tool.name arguments : StateM World _).run world).1.1 ≠
      .ok (.ofOutcome (.error (.unknownCategory key))) := by
  constructor
  · rw [Tool.reads_of_valid valid]
    exact ⟨fun readable ⟨isGenerate, requirements, found, misread⟩ =>
        readable requirements isGenerate found misread,
      fun readable requirements isGenerate found misread =>
        readable ⟨isGenerate, requirements, found, misread⟩⟩
  · intro key
    cases read : Tool.Call.ofJson tool arguments with
    | error mismatch =>
      rw [run_callTool_of_error read]
      nofun
    | ok call =>
      rw [run_callTool_of_ok read]
      intro answer
      have same : server.told call world = .ofOutcome (.error (.unknownCategory key)) :=
        Except.ok.inj answer
      -- The message alone gives the failure away, since no other begins with its first word.
      have marked : (server.told call world).isError = true := by
        rw [same]
        rfl
      obtain ⟨failure, fails⟩ := told_isError_iff.mp marked
      rw [told_of_fails fails] at same
      have message : "Error: " ++ failure.message =
          "Error: " ++ (Failure.unknownCategory key).message := congrArg ToolResult.text same
      exact fails.ne_unknownCategory (Tool.categoryKnown_of_valid valid read) key
        (Failure.eq_unknownCategory_of_message ((String.append_right_inj _).mp message))

end

/-- Arguments whose requirements give no operations under the key of the schema, but have members
that it does not name. -/
def argumentsWith (operations : Json) : Json := .obj [
  ("projectName", .str "demo"),
  ("requirements", .obj [("operations", operations), ("reviewed", .bool true)]),
  ("serverType", .str "custom")]

theorem argumentsWith_valid (operations : Json) :
    Validates Tool.generate.inputSchema (argumentsWith operations) := by
  refine (Tool.validates_objectSchema (by decide)).mpr ⟨_, rfl, by simp [keys], by simp [keys], ?_⟩
  simp only [List.forall_mem_cons, Tool.validates_textSchema, Tool.validates_categorySchema,
    Tool.validates_requirementsSchema]
  refine ⟨?_, ?_, ?_, by simp⟩
  · rintro _ ⟨⟩
    exact ⟨"demo", rfl⟩
  · rintro _ ⟨⟩
    exact ⟨"custom", by decide, rfl⟩
  · rintro _ ⟨⟩
    refine ⟨_, rfl, by simp [keys], ?_, ?_, ?_, ?_⟩ <;> simp [lookup_cons_if]

/-- The schema does not name the other key for operations, and says nothing of what it holds. -/
theorem valid_operations_refused :
    Validates Tool.generate.inputSchema (argumentsWith (.num (.int 5))) ∧
      Tool.Call.ofJson .generate (argumentsWith (.num (.int 5))) =
        .error (.wrongType (.num (.int 5)) "a sequence") :=
  ⟨argumentsWith_valid _, rfl⟩

theorem valid_operations_read :
    let arguments := argumentsWith (.texts ["fetch"])
    (∃ call, Tool.Call.ofJson .generate arguments = .ok call) ∧
    ∀ key, (((fresh .default).callTool Tool.generate.name arguments : StateM Files.Tree _).run
      ⟨[], []⟩).1.1 ≠ .ok (.ofOutcome (.error (.unknownCategory key))) := by
  intro arguments
  obtain ⟨reads, answers⟩ := valid_arguments_are_read (argumentsWith_valid (.texts ["fetch"]))
    (fresh .default) (⟨[], []⟩ : Files.Tree)
  refine ⟨reads.mpr ?_, answers⟩
  rintro ⟨-, _, ⟨⟩, _, ⟨⟩, ⟨_, ⟨⟩⟩ | ⟨-, other⟩⟩
  exact other ["fetch"] rfl

end Server

end ServerForge
