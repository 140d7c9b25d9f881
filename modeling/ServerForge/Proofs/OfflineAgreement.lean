import ServerForge.Command.Recording
import ServerForge.Proofs.CommandStages
import ServerForge.Proofs.RecordValues
import ServerForge.Proofs.ToolAnswers

/-! A project can be generated from the options of a command, or by a client that calls two tools.
Main statement: either way gives the same files, or fails for the same reason and leaves the same
files. Both are one program, `synthesizeThenSave`, with a report of its own at the end; it is run
with requirements that may differ, but only as far as `Requirements.Alike` allows. -/
namespace ServerForge

/-- Requirements that no synthesis tells apart. -/
structure Requirements.Alike (a b : Requirements) : Prop where
  purpose : a.purposeText = b.purposeText
  operations : a.operationOverride = b.operationOverride
  config : a.config = b.config
  dependencies : a.dependencyList = b.dependencyList

section
variable {a b : Requirements}

theorem Manifest.render_alike (alike : a.Alike b) (project : String) (config : Config) :
    Manifest.render project a config = Manifest.render project b config := by
  have packages : Manifest.dependencies a config = Manifest.dependencies b config := by
    simp only [Manifest.dependencies, alike.dependencies]
  simp only [Manifest.render, Manifest.toJson, packages]

theorem Readme.render_alike (alike : a.Alike b) (model : ServerModel) (category : Category)
    (config : Config) :
    Readme.render model category a config = Readme.render model category b config := by
  have purpose : Readme.purpose a config = Readme.purpose b config := by
    simp only [Readme.purpose, alike.purpose]
  have settings : Readme.settings a = Readme.settings b := by
    simp only [Readme.settings, alike.config]
  simp only [Readme.render, purpose, settings]

theorem Synthesis.resolve_alike (alike : a.Alike b) (category : Category) :
    Synthesis.resolve category a = Synthesis.resolve category b := by
  simp only [Synthesis.resolve, alike.operations]

theorem Synthesis.run_alike (alike : a.Alike b) (config : Config) (project categoryKey : String) :
    Synthesis.run config project categoryKey a = Synthesis.run config project categoryKey b := by
  simp only [Synthesis.run, Synthesis.resolve_alike alike, Manifest.render_alike alike,
    Readme.render_alike alike]

end

namespace Command

/-! ## What a client sends

Members that are left out are not sent at all. -/

def sentTexts (key : String) (texts : Option (List String)) : Json.Members :=
  (texts.map fun texts => (key, Json.texts texts)).toList

def sentRequirements (purpose : Option String) (tools dependencies : Option (List String)) : Json :=
  .obj (sentTexts "dependencies" dependencies ++
    (purpose.map fun purpose => ("purpose", Json.str purpose)).toList ++ sentTexts "tools" tools)

def generateArguments (project category : String) (purpose : Option String)
    (tools dependencies : Option (List String)) : Json := .obj [
  ("projectName", .str project),
  ("requirements", sentRequirements purpose tools dependencies),
  ("serverType", .str category)]

def saveArguments (project : String) (output : Path) : Json := .obj [
  ("outputPath", .str output.text),
  ("projectName", .str project)]

/-- Generates a project with one tool and, if that succeeds, saves it with another. -/
def generateThenSave [Monad m] [Files.Access m] (server : Server) (generation saving : Json) :
    m (Except Rpc.Error ToolResult) := do
  let (generated, server) ← server.callTool Tool.generate.name generation
  match generated with
  | .error error => return .error error
  | .ok result =>
    if result.isError then return .ok result
    else do
      let (saved, _) ← server.callTool Tool.save.name saving
      return saved

/-! ## What the tools read -/

theorem optionalTexts_read (texts : List String) :
    (Json.Codec.list .text).optional.ofJson (.texts texts) = .ok (some texts) := by
  change some <$> (Json.Codec.list .text).ofJson (.texts texts) = _
  rw [Json.Codec.texts_ofJson]
  rfl

theorem requirements_read (purpose : Option String) (tools dependencies : Option (List String)) :
    Requirements.record.ofJson (sentRequirements purpose tools dependencies) =
      .ok ⟨purpose, tools, none, dependencies⟩ := by
  have purpose_read (text : String) :
      Json.Codec.text.optional.ofJson (.str text) = .ok (some text) := rfl
  cases purpose <;> cases tools <;> cases dependencies <;>
    simp [sentRequirements, sentTexts, Json.Record.ofJson, Json.Record.ofMembers,
      Json.Record.field?, Json.Record.missing?, Requirements.record, Requirements.empty,
      Json.Field.of, purpose_read, optionalTexts_read, pure, Except.pure, bind, Except.bind,
      Functor.map, Except.map]

theorem generateArguments_read (project category : String) (purpose : Option String)
    (tools dependencies : Option (List String)) :
    Tool.Call.ofJson .generate (generateArguments project category purpose tools dependencies) =
      .ok (.generate project category ⟨purpose, tools, none, dependencies⟩) := by
  have read : Requirements.record.codec.ofJson (sentRequirements purpose tools dependencies) =
    .ok ⟨purpose, tools, none, dependencies⟩ := requirements_read purpose tools dependencies
  have text_read (text : String) : Json.Codec.text.ofJson (.str text) = .ok text := rfl
  simp [Tool.Call.ofJson, generateArguments, Json.Record.ofJson, Json.Record.ofMembers,
    Json.Record.field?, Json.Record.missing?, Tool.generateRecord, Json.Field.of, text_read, read,
    pure, Except.pure, bind, Except.bind, Functor.map, Except.map]

theorem saveArguments_read (project : String) (output : Path) :
    Tool.Call.ofJson .save (saveArguments project output) = .ok (.save project output.text) := by
  rfl

/-- An empty list of operations or dependencies asks for no more than one that is left out. -/
theorem options_alike (options : GenerateOptions) {tools dependencies : Option (List String)}
    (sameTools : tools.getD [] = options.tools)
    (sameDependencies : dependencies.getD [] = options.dependencies) :
    (Generate.ofOptions options).Alike ⟨options.purpose, tools, none, dependencies⟩ where
  purpose := rfl
  operations := by
    rw [Requirements.operationOverride, Requirements.operationOverride, Generate.ofOptions,
      ← sameTools]
    obtain _ | _ | ⟨tool, tools⟩ := tools <;> rfl
  config := rfl
  dependencies := by
    rw [Requirements.dependencyList, Requirements.dependencyList, Generate.ofOptions,
      ← sameDependencies]
    obtain _ | _ | ⟨package, packages⟩ := dependencies <;> rfl

/-! ## Both ways -/

section
variable [Monad m] [Files.Access m]

/-- Synthesizes a project and writes it at once. -/
def synthesizeThenSave (config : Config) (project categoryKey : String)
    (requirements : Requirements) (output : Path) :
    m (Except Failure (Synthesis × SavedProject)) :=
  match Synthesis.run config project categoryKey requirements with
  | .error failure => return .error failure
  | .ok synthesis => do
    let written ← Save.run synthesis.bundle output project
    return written.map (synthesis, ·)

def reportOf [Console m] (options : GenerateOptions) :
    Except Failure (Synthesis × SavedProject) → m (Except Report Unit)
  | .error failure => return .error (.ofFailure failure)
  | .ok (synthesis, written) => do
    say (Generate.summary options synthesis written)
    return .ok ()

theorem synthesizeThenSave_alike {a b : Requirements} (alike : a.Alike b) (config : Config)
    (project categoryKey : String) (output : Path) :
    synthesizeThenSave (m := m) config project categoryKey a output =
      synthesizeThenSave config project categoryKey b output := by
  rw [synthesizeThenSave, synthesizeThenSave, Synthesis.run_alike alike]

theorem run_direct [LawfulMonad m] [Console m] (config : Config) (options : GenerateOptions)
    (direct : options.interactive = false) (real : options.dryRun = false) :
    Generate.run (m := m) config options =
      synthesizeThenSave config options.project options.category (Generate.ofOptions options)
        options.output >>= reportOf options := by
  rw [Generate.run_eq_stages, Generate.synthesize_direct config direct, pure_bind,
    Generate.outcome, synthesizeThenSave]
  cases Synthesis.run config options.project options.category (Generate.ofOptions options) with
  | error failure => simp only [Except.mapError, pure_bind, reportOf]
  | ok synthesis =>
    simp only [Except.mapError, Generate.deliver, real, Bool.false_eq_true, if_false, bind_assoc,
      pure_bind]
    congr 1
    funext saved
    cases saved <;> rfl

/-- What was generated is what is saved, whatever the server held before. -/
theorem generateThenSave_eq [LawfulMonad m] (server : Server) (project category : String)
    (purpose : Option String) (tools dependencies : Option (List String)) (output : Path) :
    generateThenSave (m := m) server
        (generateArguments project category purpose tools dependencies)
        (saveArguments project output) =
      (fun outcome => .ok (.ofOutcome (outcome.map fun made => Messages.saved project made.2))) <$>
        synthesizeThenSave server.config project category ⟨purpose, tools, none, dependencies⟩
          output := by
  unfold generateThenSave synthesizeThenSave
  have generation := generateArguments_read project category purpose tools dependencies
  have saving := saveArguments_read project output
  simp only [Server.callTool_read server generation, Server.callTool_read _ saving]
  cases made : Synthesis.run server.config project category
      ⟨purpose, tools, none, dependencies⟩ with
  | error failure =>
    simp only [Server.perform, made, ToolResult.ofOutcome, map_pure, pure_bind, if_true, Except.map]
  | ok synthesis =>
    simp only [Server.perform, made, ToolResult.ofOutcome, Registry.get_put_same, map_pure,
      pure_bind, bind_pure_comp, Functor.map_map, Bool.false_eq_true, if_false]
    congr 1
    funext saved
    cases saved <;> rfl

end

/-- On a server with the same settings, a fresh one among them, generating a project and saving
it gives the files that the command gives, or fails as the command does. A list that is empty
may be sent or left out. -/
theorem offline_generation_agrees (server : Server) (project category : String)
    (purpose : Option String) (tools dependencies : Option (List String)) (output : Path)
    (start : Recording) :
    let options : GenerateOptions := {
      project, category, purpose, output
      tools := tools.getD []
      dependencies := dependencies.getD []
      dryRun := false
      interactive := false }
    let offline := (Generate.run server.config options : StateM Recording _).run start
    let served := (generateThenSave server
      (generateArguments project category purpose tools dependencies)
      (saveArguments project output) : StateM Recording _).run start
    offline.2.tree = served.2.tree ∧
    ((offline.1 = .ok () ∧ ∃ text, served.1 = .ok ⟨text, false⟩) ∨
      ∃ failure : Failure, offline.1 = .error (.ofFailure failure) ∧
        served.1 = .ok ⟨"Error: " ++ failure.message, true⟩) := by
  intro options offline served
  have alike : (Generate.ofOptions options).Alike ⟨purpose, tools, none, dependencies⟩ :=
    options_alike options rfl rfl
  let both : StateM Recording _ := synthesizeThenSave server.config project category
    ⟨purpose, tools, none, dependencies⟩ output
  have offlineRuns : offline = (both >>= reportOf options).run start := by
    have direct := run_direct (m := StateM Recording) server.config options rfl rfl
    rw [synthesizeThenSave_alike alike] at direct
    exact congrArg (StateT.run · start) direct
  have servedRuns : served = ((fun outcome => .ok (.ofOutcome (outcome.map fun made =>
      Messages.saved project made.2))) <$> both).run start :=
    congrArg (StateT.run · start) (generateThenSave_eq server project category
      purpose tools dependencies output)
  -- only the reports differ, and a report leaves the files alone
  cases ran : both.run start with
  | mk outcome after =>
    rw [StateT.run_bind, ran] at offlineRuns
    rw [StateT.run_map, ran] at servedRuns
    cases outcome with
    | error failure =>
      rw [offlineRuns, servedRuns]
      exact ⟨rfl, .inr ⟨failure, rfl, rfl⟩⟩
    | ok made =>
      rw [offlineRuns, servedRuns]
      exact ⟨rfl, .inl ⟨rfl, Messages.saved project made.2, rfl⟩⟩

end Command

end ServerForge
