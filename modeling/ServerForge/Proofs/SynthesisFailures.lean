import ServerForge.Proofs.HandlerCollisions
import ServerForge.Proofs.ReadValues

/-! Why a generation fails. Main statement: only for a key that is no category's, which is found
out first, or for two operations that share a handler. Nothing else can go wrong: the source is
also what comes of filling a template, where a text that is missing would be a failure. -/
namespace ServerForge

/-! ## Templates -/

namespace Template

/-- What a line is made of: text as it stands, or the text that a path leads to. -/
inductive Piece where
  | text (text : String)
  | splice (path : List String)

/-- Lines that are written once, or once for each item of a list, under a name for the item. -/
inductive Part where
  | once (lines : List (List Piece))
  | each (item list : String) (lines : List (List Piece))

/-- What a path leads to, beginning with a name of the context. -/
def value? (context : Json.Members) : List String → Option Json
  | [] => none
  | name :: path =>
    (context.lookup name).bind fun value => path.foldlM (fun value key => value.get? key) value

def Piece.render (context : Json.Members) : Piece → Except Failure String
  | .text written => return written
  | .splice path =>
    match value? context path with
    | some (.str written) => return written
    | _ => throw (.template ("no text for `" ++ ".".intercalate path ++ "`"))

def line (context : Json.Members) (pieces : List Piece) : Except Failure String :=
  String.join <$> pieces.mapM (·.render context)

def Part.render (context : Json.Members) : Part → Except Failure (List String)
  | .once lines => lines.mapM (line context)
  | .each item list lines =>
    match context.lookup list with
    | some (.arr values) =>
      List.flatten <$> values.mapM fun value => lines.mapM (line ((item, value) :: context))
    | _ => throw (.template ("no list for `" ++ list ++ "`"))

def render (parts : List Part) (context : Json.Members) : Except Failure (List String) :=
  List.flatten <$> parts.mapM (·.render context)

/-- The names that a value gives a template; only an object gives any. -/
def contextOf : Json → Except Failure Json.Members
  | .obj members => return members
  | _ => throw (.template "a context has to be an object")

def fixed (lines : List String) : Part := .once (lines.map fun line => [.text line])

end Template

namespace ServerSource

open Template (fixed)

def openingTemplate : List Template.Part := [
  fixed ["#!/usr/bin/env node", ""],
  .each "imp" "imports" [
    [.text "import \x7b ", .splice ["imp", "names"], .text " \x7d from \"",
      .splice ["imp", "module"], .text "\";"]],
  .once [
    [],
    [.text "class ", .splice ["class_name"], .text " \x7b"],
    [.text "  private server: Server;"],
    [],
    [.text "  constructor() \x7b"],
    [.text "    this.server = new Server("],
    [.text "      \x7b name: ", .splice ["project_name_literal"], .text ", version: \"",
      .splice ["version"], .text "\" \x7d,"],
    [.text "      \x7b capabilities: \x7b tools: \x7b\x7d \x7d \x7d"],
    [.text "    );"],
    [.text "    this.setupHandlers();"],
    [.text "  \x7d"],
    [],
    [.text "  private setupHandlers() \x7b"],
    [.text "    this.server.setRequestHandler(ListToolsRequestSchema, async () => (\x7b"]]]

def caseTemplate : Template.Part :=
  .each "branch" "dispatch" [
    [.text "          case ", .splice ["branch", "label_literal"], .text ":"],
    [.text "            return await this.", .splice ["branch", "handler"], .text "(args);"]]

def stubTemplate : Template.Part :=
  .each "branch" "dispatch" [
    [],
    [.text "  private async ", .splice ["branch", "handler"],
      .text "(args: Record<string, unknown> | undefined) \x7b"],
    [.text "    const input = String(args?.input ?? \"\");"],
    [.text "    return \x7b content: [\x7b type: \"text\", text: ",
      .splice ["branch", "label_literal"], .text " + \" received: \" + input \x7d] \x7d;"],
    [.text "  \x7d"]]

def closingTemplate : Template.Part := .once [
  [],
  [.text "  async run() \x7b"],
  [.text "    const transport = new StdioServerTransport();"],
  [.text "    await this.server.connect(transport);"],
  [.text "    console.error(", .splice ["running_message_literal"], .text ");"],
  [.text "  \x7d"],
  [.text "\x7d"],
  [],
  [.text "async function main() \x7b"],
  [.text "  const server = new ", .splice ["class_name"], .text "();"],
  [.text "  await server.run();"],
  [.text "\x7d"],
  [],
  [.text "main().catch(console.error);"]]

def toolsTemplate : Template.Part :=
  .once [[.text "      tools: ", .splice ["tools_json"], .text ","]]

def template : List Template.Part :=
  openingTemplate ++ [toolsTemplate, fixed switchOpening, caseTemplate, fixed switchClosing,
    stubTemplate, closingTemplate]

/-- The form of a model, with the two texts that are made for the template alone. -/
def context (model : ServerModel) : Except Failure Json.Members := do
  let members ← Template.contextOf model.toJson
  return members ++ [
    ("tools_json", .str (Json.prettyAt 3 (.arr (model.operations.map Operation.descriptor)))),
    ("running_message_literal", .str (Json.quote (runningMessage model)))]

/-- The source as the template gives it. -/
def fill (model : ServerModel) : Except Failure String := do
  let lines ← Template.render template (← context model)
  return String.join (lines.map (· ++ "\n"))

end ServerSource

namespace Template

/-! ## What filling comes to -/

theorem mapM_eq_ok {f : α → Except Failure β} {g : α → β} {values : List α}
    (each : ∀ value ∈ values, f value = .ok (g value)) : values.mapM f = .ok (values.map g) := by
  induction values with
  | nil => rfl
  | cons value values ih =>
    rw [List.mapM_cons, each value (by simp), ih fun other member => each other (by simp [member])]
    rfl

theorem render_fixed (context : Json.Members) (lines : List String) :
    (fixed lines).render context = .ok lines := by
  have plain (text : String) : line context [.text text] = .ok text :=
    congrArg Except.ok (String.empty_append (s := text))
  change (lines.map fun text => [Piece.text text]).mapM (line context) = .ok lines
  rw [List.mapM_map]
  exact (mapM_eq_ok (g := id) fun text _ => plain text).trans (congrArg Except.ok (List.map_id _))

theorem render_each {context : Json.Members} {item list : String} {lines : List (List Piece)}
    {values : List α} (form : α → Json) {written : α → List String}
    (held : context.lookup list = some (.arr (values.map form)))
    (filled : ∀ value ∈ values,
      lines.mapM (line ((item, form value) :: context)) = .ok (written value)) :
    (Part.each item list lines).render context = .ok (values.flatMap written) := by
  have each : (values.map form).mapM (fun value => lines.mapM (line ((item, value) :: context))) =
      .ok (values.map written) := by
    rw [List.mapM_map]
    exact mapM_eq_ok filled
  simp only [Part.render, held, each]
  rfl

theorem render_append {parts rest : List Part} {context : Json.Members} {a b : List String}
    (first : render parts context = .ok a) (second : render rest context = .ok b) :
    render (parts ++ rest) context = .ok (a ++ b) := by
  obtain ⟨as, filled, rfl⟩ := Json.map_eq_ok.mp first
  obtain ⟨bs, refilled, rfl⟩ := Json.map_eq_ok.mp second
  rw [render, List.mapM_append, filled, refilled]
  exact congrArg Except.ok List.flatten_append

theorem render_cons {part : Part} {rest : List Part} {context : Json.Members} {a b : List String}
    (first : part.render context = .ok a) (second : render rest context = .ok b) :
    render (part :: rest) context = .ok (a ++ b) := by
  obtain ⟨bs, filled, rfl⟩ := Json.map_eq_ok.mp second
  rw [render, List.mapM_cons, first, filled]
  rfl

end Template

namespace ServerSource

/-- The names of a model's form, and the two texts beside it. -/
def names (model : ServerModel) : Json.Members :=
  [("project_name", .str model.project),
  ("project_name_literal", .str (Json.quote model.project)),
  ("class_name", .str model.className),
  ("version", .str model.version),
  ("imports", .arr (imports.map fun (names, source) =>
    .obj [("names", .str names), ("module", .str source)])),
  ("descriptors", .arr (model.operations.map Operation.descriptor)),
  ("dispatch", .arr (model.operations.map Operation.branch)),
    ("tools_json", .str (Json.prettyAt 3 (.arr (model.operations.map Operation.descriptor)))),
    ("running_message_literal", .str (Json.quote (runningMessage model)))]

theorem context_eq (model : ServerModel) : context model = .ok (names model) := rfl

/-- In the template stand a literal and a method for each operation, as in the lines. -/
theorem render_template (model : ServerModel) :
    Template.render template (names model) = .ok (lines model) := by
  have opened : Template.render openingTemplate (names model) = .ok (opening model) := rfl
  have tools : toolsTemplate.render (names model) = .ok [toolsLine model] := rfl
  have cases : caseTemplate.render (names model) = .ok (model.operations.flatMap caseLines) :=
    Template.render_each Operation.branch rfl fun _ _ => rfl
  have stubs : stubTemplate.render (names model) = .ok (model.operations.flatMap stubLines) :=
    Template.render_each Operation.branch rfl fun _ _ => rfl
  have closed : Template.render [closingTemplate] (names model) = .ok (closing model) := rfl
  have filled := Template.render_append opened <|
    Template.render_cons tools <|
    Template.render_cons (Template.render_fixed _ switchOpening) <|
    Template.render_cons cases <|
    Template.render_cons (Template.render_fixed _ switchClosing) <|
    Template.render_cons stubs closed
  rw [template, filled, lines]
  simp only [List.append_assoc]

theorem fill_eq_render (model : ServerModel) : fill model = .ok (render model) := by
  rw [fill, context_eq]
  change (do let lines ← Template.render template (names model); _) = _
  rw [render_template]
  rfl

end ServerSource

/-! ## Which generations fail -/

theorem ServerModel.exists_repeat_iff {labels : List String} :
    (∃ j, RepeatsAt labels j) ↔ ¬ (labels.map Naming.handlerName).Nodup := by
  constructor
  · rintro ⟨j, i, below, first, second, atFirst, atSecond, same⟩ distinct
    exact Nat.ne_of_lt below (eq_of_handlerName_eq distinct atFirst atSecond same)
  · intro shared
    cases built : build "" "" labels with
    | ok model => exact absurd (build_isOk_iff.mp ⟨model, built⟩) shared
    | error failure =>
      obtain ⟨j, -, -, repeats, -⟩ := exists_first_repeat built
      exact ⟨j, repeats⟩

theorem Category.defaultOperations_distinct (category : Category) :
    (category.defaultOperations.map Naming.handlerName).Nodup := by
  cases category <;> decide

namespace Synthesis

/-- A generation in which the source is filled into its template. -/
def stepwise (config : Config) (project categoryKey : String) (requirements : Requirements) :
    Except Failure Synthesis := do
  let category ← Category.ofKey categoryKey
  let operations := resolve category requirements
  let model ← ServerModel.build project config.serverVersion operations
  let serverSource ← ServerSource.fill model
  return {
    category
    operations
    bundle := {
      manifest := Manifest.render project requirements config
      serverSource
      readme := Readme.render model category requirements config
      buildConfig := Manifest.buildConfig
      ignoreRules := Manifest.ignoreRules } }

theorem stepwise_eq_run (config : Config) (project categoryKey : String)
    (requirements : Requirements) :
    stepwise config project categoryKey requirements =
      run config project categoryKey requirements := by
  simp only [stepwise, run, ServerSource.fill_eq_render]
  rfl

theorem resolve_of_empty {requirements : Requirements} (category : Category)
    (empty : requirements.operations = none ∨ requirements.operations = some []) :
    resolve category requirements = category.defaultOperations := by
  rcases empty with missing | given
  · rw [resolve, Requirements.operationOverride, missing]
    rfl
  · rw [resolve, Requirements.operationOverride, given]
    rfl

/-- With the key of a category, only the operations can be refused. -/
theorem build_refused {config : Config} {project : String} {category : Category}
    {requirements : Requirements} {failure : Failure}
    (failed : run config project category.key requirements = .error failure) :
    ServerModel.build project config.serverVersion (resolve category requirements) =
      .error failure := by
  rcases run_eq_error_iff.mp failed with ⟨unknown, -⟩ | ⟨other, same, refused⟩
  · exact absurd (List.mem_map_of_mem category.mem_all) unknown
  · cases Category.key_injective same
    exact refused

theorem run_isOk_of_distinct {config : Config} {project : String} {category : Category}
    {requirements : Requirements}
    (distinct : ((resolve category requirements).map Naming.handlerName).Nodup) :
    ∃ synthesis, run config project category.key requirements = .ok synthesis := by
  cases made : run config project category.key requirements with
  | ok synthesis => exact ⟨synthesis, rfl⟩
  | error failure =>
    obtain ⟨model, built⟩ : ∃ model, ServerModel.build project config.serverVersion
      (resolve category requirements) = .ok model := ServerModel.build_isOk_iff.mpr distinct
    cases built.symm.trans (build_refused made)

/-- A generation fails exactly for a key that is no category's, whatever the operations are, or for
operations that share a handler. It is refused for nothing else, and not at all if the operations
are those of the category. The template of the source can be filled for every model. -/
theorem synthesis_fails_by_key_or_handlers (config : Config) (project categoryKey : String)
    (requirements : Requirements) :
    let outcome := run config project categoryKey requirements
    stepwise config project categoryKey requirements = outcome ∧
    ((∃ failure, outcome = .error failure) ↔ categoryKey ∉ Category.keys ∨
      ∃ category : Category, category.key = categoryKey ∧
        ∃ j, ServerModel.RepeatsAt (resolve category requirements) j) ∧
    (categoryKey ∉ Category.keys → outcome = .error (.unknownCategory categoryKey)) ∧
    ∀ category : Category, category.key = categoryKey →
      (∀ failure, outcome = .error failure →
        ∃ first ∈ resolve category requirements, ∃ second ∈ resolve category requirements,
          Naming.handlerName first = Naming.handlerName second ∧
          failure = .operationCollision first second (Naming.handlerName second)) ∧
      (requirements.operations = none ∨ requirements.operations = some [] →
        ∃ synthesis, outcome = .ok synthesis) := by
  intro outcome
  have unknown (missing : categoryKey ∉ Category.keys) :
      outcome = .error (.unknownCategory categoryKey) := run_eq_error_iff.mpr (.inl ⟨missing, rfl⟩)
  refine ⟨stepwise_eq_run config project categoryKey requirements, ⟨?_, ?_⟩, unknown, ?_⟩
  · rintro ⟨failure, failed⟩
    rcases run_eq_error_iff.mp failed with ⟨missing, -⟩ | ⟨category, same, refused⟩
    · exact .inl missing
    · obtain ⟨j, -, -, repeats, -⟩ := ServerModel.exists_first_repeat refused
      exact .inr ⟨category, same, j, repeats⟩
  · rintro (missing | ⟨category, same, repeats⟩)
    · exact ⟨_, unknown missing⟩
    · cases built : ServerModel.build project config.serverVersion
          (resolve category requirements) with
      | ok model =>
        exact absurd (ServerModel.build_isOk_iff.mp ⟨model, built⟩)
          (ServerModel.exists_repeat_iff.mp repeats)
      | error failure => exact ⟨failure, run_eq_error_iff.mpr (.inr ⟨category, same, built⟩)⟩
  · rintro category rfl
    refine ⟨fun failure failed => ?_, fun empty => ?_⟩
    · obtain ⟨before, second, after, operations, first, member, shared, -, reported⟩ :=
        ServerModel.build_eq_error_iff.mp (build_refused failed)
      rw [operations]
      exact ⟨first, by simp [member], second, by simp, shared, reported⟩
    · apply run_isOk_of_distinct
      rw [resolve_of_empty category empty]
      exact category.defaultOperations_distinct

end Synthesis

end ServerForge
