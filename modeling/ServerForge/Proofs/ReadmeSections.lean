import ServerForge.Proofs.FencedBlocks
import ServerForge.Proofs.ListedTexts
import ServerForge.Proofs.ValueDepth
import ServerForge.Readme

/-! What a readme consists of. Main statement: its sections follow each other in a fixed order, with
a line for each tool, with the purpose if there is one, and with the settings if there are any; and
the JSON in it, between fences that nothing in it can close, is read as the entry for a client and
as the settings that were asked for. -/
namespace ServerForge

/-- What a descriptor says under a key. -/
def Operation.told (operation : Operation) (key : String) : String :=
  ((operation.descriptor.get? key).bind Json.text?).getD ""

namespace Readme

/-- The line of a readme on a tool, with the name and the description of its descriptor. -/
def toolLine (operation : Operation) : String :=
  "- `" ++ operation.told "name" ++ "`: " ++ operation.told "description" ++
    " (input: `input` string)\n"

theorem toolLine_eq_bullet (operation : Operation) :
    toolLine operation = bullet operation.label := by
  have name : operation.told "name" = operation.label := rfl
  have description : operation.told "description" = "Generated tool: " ++ operation.label := rfl
  have joined : "`: " ++ "Generated tool: " = "`: Generated tool: " := by decide
  rw [toolLine, bullet, name, description, ← joined]
  simp only [String.append_assoc]

theorem bullets_eq (model : ServerModel) :
    model.labels.map bullet = model.operations.map toolLine := by
  rw [ServerModel.labels, List.map_map]
  exact List.map_congr_left fun operation _ => (toolLine_eq_bullet operation).symm

theorem pretty_fenceable (value : Json) : Text.Fenceable value.pretty.toList := by
  rw [Json.pretty, Json.prettyAt, String.toList_ofList, Json.prettyChars_eq]
  exact Json.printed_fenceable 0 value

/-- A value in a fence of its own is found there, after an empty line. -/
theorem fenced_showsJson {start lead : String} (parted : start = lead ++ "\n")
    (silent : ∀ row ∈ Text.rows lead.toList, Text.opensJson row = false) (value : Json) :
    Text.ShowsJson (start ++ fenced value) lead value.pretty "\n" := by
  have shown := Text.showsJson (pretty_fenceable value) silent
    (by decide : ∀ row ∈ Text.rows "\n".toList, Text.opensJson row = false)
  have opening : "\n" ++ "```json\n" = "\n```json\n" := by decide
  have closing : "\n```\n" ++ "\n" = "\n```\n\n" := by decide
  have same : start ++ fenced value =
      lead ++ "\n```json\n" ++ value.pretty ++ "\n```\n" ++ "\n" := by
    simp only [parted, fenced, String.append_assoc, closing, ← opening]
  rw [same]
  exact shown

/-! ## The sections -/

/-- The parts of a readme that are not the same for all projects. -/
structure Sections where
  purpose : String
  tools : String
  configuration : String
  settings : String

namespace Sections

/-- The readme with these parts. -/
def text (sections : Sections) (project category generator : String) : String :=
  "# " ++ project ++ "\n\nGenerated MCP server for " ++ category ++ " operations.\n\n" ++
  "## Purpose\n\n" ++ sections.purpose ++ "\n\n" ++
  "## Tools\n\n" ++ sections.tools ++ "\n" ++
  "## Installation\n\n```bash\nnpm install\nnpm run build\n```\n\n" ++
  "## Usage\n\n```bash\nnpm start\n```\n\n" ++
  sections.configuration ++ sections.settings ++
  "## Generated by " ++ generator ++
  "\n\nThis server was automatically generated by the " ++ generator ++ ".\n"

/-- The entry with which a client starts the server of a project. -/
def entry (project : String) : Json := .object [(project, .object [
  ("command", .str "node"),
  ("args", Json.texts ["path/to/" ++ project ++ "/build/index.js"])])]

/-- The parts say what was asked for. JSON is read in any room that is enough for it. -/
structure Show (sections : Sections) (model : ServerModel) (requirements : Requirements)
    (config : Config) : Prop where
  purpose : ∀ given, requirements.purpose = some given → Text.isBlank given = false →
    sections.purpose = Text.trim given
  noPurpose : (∀ given, requirements.purpose = some given → Text.isBlank given = true) →
    sections.purpose = "Custom MCP server generated by " ++ config.generatorName
  tools : model.operations ≠ [] →
    sections.tools = String.join (model.operations.map toolLine)
  noTools : model.operations = [] ↔
    sections.tools = "No tools defined yet. Add cases to the dispatcher in `src/index.ts`.\n"
  configuration : ∃ json, Text.ShowsJson sections.configuration
      "## Configuration\n\nAdd to your Claude Desktop MCP configuration:\n" json "\n" ∧
    Json.parse json = .ok (entry model.project)
  settings : ∀ members, requirements.config = some members → members ≠ [] → ∃ json,
    Text.ShowsJson sections.settings
      "## Server Settings\n\nRequested at generation time:\n" json "\n" ∧
    (Json.Ordered (.obj members) → Json.inRange (.obj members) = true →
      Json.floatless (.obj members) = true → ∀ room, Json.depth (.obj members) ≤ room →
        Json.readWhole (Json.readValue room) json.toList = .ok (.obj members))
  noSettings : requirements.config.getD [] = [] ↔ sections.settings = ""

end Sections

theorem purposeText_of_blank {requirements : Requirements}
    (blank : ∀ given, requirements.purpose = some given → Text.isBlank given = true) :
    requirements.purposeText = none := by
  rw [Requirements.purposeText]
  cases stated : requirements.purpose with
  | none => rfl
  | some given => simp [Text.trim_eq_empty_iff.mpr (blank given stated)]

theorem purposeText_of_given {requirements : Requirements} {given : String}
    (stated : requirements.purpose = some given) (visible : Text.isBlank given = false) :
    requirements.purposeText = some (Text.trim given) := by
  have nonempty : Text.trim given ≠ "" := fun empty => by
    rw [Text.trim_eq_empty_iff.mp empty] at visible
    cases visible
  simp [Requirements.purposeText, stated, nonempty]

/-- No tool has a line that reads like the text on a server without tools. -/
theorem lines_ne_noTools (operation : Operation) (operations : List Operation) :
    String.join ((operation :: operations).map toolLine) ≠
      "No tools defined yet. Add cases to the dispatcher in `src/index.ts`.\n" := by
  intro same
  have first := congrArg (·.toList.head?) same
  rw [List.map_cons, String.join_cons, toolLine] at first
  simp at first

/-- The members of the entry in the order of their keys. -/
theorem clientEntry_eq (project entryPoint : String) : clientEntry project entryPoint =
    .obj [(project, .obj [("args", Json.texts [entryPoint]), ("command", .str "node")])] := by
  have sorted : "args" < "command" := by decide
  simp [clientEntry, Json.object, Json.insertAll, Json.insert, sorted]

theorem clientEntry_ordered (project entryPoint : String) :
    (clientEntry project entryPoint).Ordered := by
  have sorted : "args" < "command" := by decide
  rw [clientEntry_eq]
  refine .obj (List.pairwise_singleton _ _) (List.forall_mem_singleton.mpr (.obj ?_ ?_))
  · exact List.pairwise_pair.mpr sorted
  · refine List.forall_mem_cons.mpr ⟨.arr ?_, List.forall_mem_singleton.mpr (.str _)⟩
    exact List.forall_mem_singleton.mpr (.str _)

theorem parse_clientEntry (project entryPoint : String) :
    Json.parse (clientEntry project entryPoint).pretty = .ok (clientEntry project entryPoint) := by
  refine Json.read_pretty (clientEntry_ordered project entryPoint) ?_ ?_ ?_
  · rw [clientEntry_eq]
    rfl
  · rw [clientEntry_eq]
    rfl
  · have depth : (clientEntry project entryPoint).depth = 3 := by
      rw [clientEntry_eq]
      rfl
    rw [depth]
    decide

theorem configuration_shows (model : ServerModel) :
    ∃ json, Text.ShowsJson (configuration model)
      "## Configuration\n\nAdd to your Claude Desktop MCP configuration:\n" json "\n" ∧
    Json.parse json = .ok (Sections.entry model.project) := by
  have silent : ∀ row ∈ Text.rows
      "## Configuration\n\nAdd to your Claude Desktop MCP configuration:\n".toList,
      Text.opensJson row = false := by decide
  exact ⟨_, fenced_showsJson (by decide) silent _, parse_clientEntry _ _⟩

theorem settings_show {requirements : Requirements} {members : Json.Members}
    (given : requirements.config = some members) (nonempty : members ≠ []) : ∃ json,
    Text.ShowsJson (settings requirements)
      "## Server Settings\n\nRequested at generation time:\n" json "\n" ∧
    (Json.Ordered (.obj members) → Json.inRange (.obj members) = true →
      Json.floatless (.obj members) = true → ∀ room, Json.depth (.obj members) ≤ room →
        Json.readWhole (Json.readValue room) json.toList = .ok (.obj members)) := by
  obtain ⟨member, rest, rfl⟩ := List.exists_cons_of_ne_nil nonempty
  have silent : ∀ row ∈ Text.rows
      "## Server Settings\n\nRequested at generation time:\n".toList,
      Text.opensJson row = false := by decide
  have part : settings requirements = "## Server Settings\n\nRequested at generation time:\n\n" ++
      fenced (.obj (member :: rest)) := by
    rw [settings, given]
  rw [part]
  exact ⟨_, fenced_showsJson (by decide) silent _, fun ordered inRange exact room enough =>
    Json.read_pretty ordered inRange exact enough⟩

theorem settings_eq_empty_iff (requirements : Requirements) :
    requirements.config.getD [] = [] ↔ settings requirements = "" := by
  unfold settings
  rcases requirements.config with _ | _ | ⟨member, members⟩
  · simp
  · simp
  · simp only [Option.getD_some, reduceCtorEq, false_iff]
    intro empty
    have none := congrArg (·.toList) empty
    simp at none

namespace Sections

/-- The parts of the readme of a project. -/
def of (model : ServerModel) (requirements : Requirements) (config : Config) : Sections where
  purpose := requirements.purposeText.getD
    ("Custom MCP server generated by " ++ config.generatorName)
  tools :=
    if model.operations.isEmpty then
      "No tools defined yet. Add cases to the dispatcher in `src/index.ts`.\n"
    else String.join (model.operations.map toolLine)
  configuration := Readme.configuration model
  settings := Readme.settings requirements

theorem of_show (model : ServerModel) (requirements : Requirements) (config : Config) :
    (of model requirements config).Show model requirements config where
  purpose given stated visible := by
    rw [of, purposeText_of_given stated visible, Option.getD_some]
  noPurpose blank := by
    rw [of, purposeText_of_blank blank, Option.getD_none]
  tools some := if_neg (by simpa using some)
  noTools := by
    constructor
    · intro none
      exact if_pos (by simp [none])
    · intro same
      cases listed : model.operations with
      | nil => rfl
      | cons operation operations =>
        unfold of at same
        rw [listed] at same
        exact absurd same (lines_ne_noTools operation operations)
  configuration := configuration_shows model
  settings _ := settings_show
  noSettings := settings_eq_empty_iff requirements

theorem render_eq_text (model : ServerModel) (category : Category) (requirements : Requirements)
    (config : Config) : render model category requirements config =
      (of model requirements config).text model.project category.key config.generatorName := by
  unfold render title Readme.purpose Readme.tools installation usage credits of text
  simp only [bullets_eq, String.append_assoc]

end Sections

/-- A readme has its sections in their order, and each says what was asked for. -/
theorem render_shows_what_was_asked_for (model : ServerModel) (category : Category)
    (requirements : Requirements) (config : Config) :
    ∃ sections : Sections, sections.Show model requirements config ∧
      render model category requirements config =
        sections.text model.project category.key config.generatorName :=
  ⟨.of model requirements config, Sections.of_show model requirements config,
    Sections.render_eq_text model category requirements config⟩

end Readme

end ServerForge
