import ServerForge.Proofs.Confinement
import ServerForge.Proofs.Generation
import ServerForge.Server

/-! How calls of tools are answered. Main statement: only parameters that make no sense are
answered with an error, and then nothing was done; every other call has a result of one text, which
is marked as an error exactly if it reads as one. -/
namespace ServerForge

/-! ## How texts open

A success opens with a picture; what opens with another character is another text. -/

def OpensWith (text : String) (c : Char) : Prop := text.toList.head? = some c

theorem OpensWith.append {first : String} {c : Char} (opens : OpensWith first c) (rest : String) :
    OpensWith (first ++ rest) c := by
  rw [OpensWith, String.toList_append, List.head?_append, show first.toList.head? = _ from opens]
  rfl

theorem OpensWith.unique {text : String} {c d : Char} (one : OpensWith text c)
    (other : OpensWith text d) : c = d :=
  Option.some.inj (one.symm.trans other)

/-- The characters with which a user is told of a success. -/
def Messages.pictures : List Char := ['🚀', '📋', '🎉', '📦', '💾']

namespace Messages

theorem generationStarted_opens (project : String) (category : Category) :
    OpensWith (generationStarted project category) '🚀' := by
  unfold generationStarted
  repeat with_reducible apply OpensWith.append
  rfl

theorem questions_opens (category : Category) : OpensWith (questions category) '📋' := by
  unfold questions
  repeat with_reducible apply OpensWith.append
  rfl

theorem generated_opens (project : String) (synthesis : Synthesis) :
    OpensWith (generated project synthesis) '🎉' := by
  unfold generated
  repeat with_reducible apply OpensWith.append
  rfl

theorem templates_opens : OpensWith templates '📦' := by
  unfold templates
  repeat with_reducible apply OpensWith.append
  rfl

theorem saved_opens (project : String) (written : SavedProject) :
    OpensWith (saved project written) '💾' := by
  unfold saved
  repeat with_reducible apply OpensWith.append
  rfl

end Messages

namespace Failure

/-- The character with which a failure is reported. -/
def initial : Failure → Char
  | unknownCategory _ => 'U'
  | projectNotFound _ => 'N'
  | invalidProjectName _ => 'I'
  | operationCollision .. => 'O'
  | writeFailure .. => 'F'
  | template _ => 'T'
  | config _ => 'C'
  | json _ => 'J'
  | toml => 'T'

theorem message_opens (failure : Failure) : OpensWith failure.message failure.initial := by
  unfold message
  split
  all_goals
    repeat with_reducible apply OpensWith.append
    rfl

/-- Only one failure is reported with this word. -/
theorem unknownCategory_of_message {failure : Failure} {rest : String}
    (same : failure.message = "Unknown " ++ rest) :
    ∃ key, failure = .unknownCategory key ∧ rest = "server type: " ++ key := by
  have word : OpensWith "Unknown " 'U' := rfl
  have initial : failure.initial = 'U' :=
    failure.message_opens.unique (same ▸ word.append rest)
  cases failure with
  | unknownCategory key =>
    dsimp only [message] at same
    rw [show "Unknown server type: " = "Unknown " ++ "server type: " from rfl,
      String.append_assoc] at same
    exact ⟨key, rfl, ((String.append_right_inj _).mp same).symm⟩
  | _ => simp [Failure.initial] at initial

theorem eq_unknownCategory_of_message {failure : Failure} {key : String}
    (same : failure.message = (unknownCategory key).message) : failure = .unknownCategory key := by
  rw [show (unknownCategory key).message = "Unknown server type: " ++ key from rfl,
    show "Unknown server type: " = "Unknown " ++ "server type: " from rfl,
    String.append_assoc] at same
  obtain ⟨other, rfl, rest⟩ := unknownCategory_of_message same
  rw [(String.append_right_inj _).mp rest]

/-- No failure reads like the answer to an unknown tool. -/
theorem message_ne_unknownTool (failure : Failure) (name : String) :
    failure.message ≠ "Unknown tool: " ++ name := by
  intro same
  rw [show "Unknown tool: " = "Unknown " ++ "tool: " from rfl, String.append_assoc] at same
  obtain ⟨key, -, rest⟩ := unknownCategory_of_message same
  have tool : OpensWith "tool: " 't' := rfl
  have server : OpensWith "server type: " 's' := rfl
  have opens := server.append key
  rw [← rest] at opens
  exact absurd ((tool.append name).unique opens) (by decide)

end Failure

/-! ## What a client reads -/

/-- The result has one block of content, and that is a text. -/
def HoldsText (result : Json) (text : String) : Prop :=
  ∃ block, result.get? "content" = some (.arr [block]) ∧
    block.get? "type" = some (.str "text") ∧ block.get? "text" = some (.str text)

def MarksError (result : Json) : Prop := result.get? "isError" = some (.bool true)

/-- The names of the tools in a listing. -/
def listedNames (listing : Json) : List String :=
  match listing.get? "tools" with
  | some (.arr tools) => tools.filterMap fun tool => (tool.get? "name").bind Json.text?
  | _ => []

theorem HoldsText.unique {result : Json} {a b : String} (one : HoldsText result a)
    (other : HoldsText result b) : a = b := by
  obtain ⟨block, content, -, text⟩ := one
  obtain ⟨block', content', -, text'⟩ := other
  cases content.symm.trans content'
  cases text.symm.trans text'
  rfl

theorem ToolResult.holdsText (result : ToolResult) :
    HoldsText result.toJson.sorted result.text := by
  obtain ⟨text, _ | _⟩ := result <;> exact ⟨_, rfl, rfl, rfl⟩

theorem ToolResult.marksError_iff (result : ToolResult) :
    MarksError result.toJson.sorted ↔ result.isError = true := by
  obtain ⟨text, _ | _⟩ := result
  · exact ⟨fun marked => (nomatch (show none = some _ from marked)), fun wrong => nomatch wrong⟩
  · exact ⟨fun _ => rfl, fun _ => rfl⟩

theorem ToolResult.ofOutcome_eq_text {outcome : Except Failure String} {text : String}
    (same : ofOutcome outcome = ⟨text, false⟩) : outcome = .ok text := by
  cases outcome with
  | ok held => exact congrArg Except.ok (congrArg ToolResult.text same)
  | error failure => cases congrArg ToolResult.isError same

theorem ToolResult.text_unknownTool (name : String) :
    (unknownTool name).text = "Error: " ++ ("Unknown tool: " ++ name) := by
  rw [← String.append_assoc, show "Error: " ++ "Unknown tool: " = "Error: Unknown tool: " from rfl]
  rfl

theorem not_mem_listedNames {name : String} :
    name ∉ listedNames Server.toolsResult ↔ ∀ tool : Tool, tool.name ≠ name := by
  have names : listedNames Server.toolsResult = Tool.all.map Tool.name := by decide
  rw [names, List.mem_map]
  constructor
  · rintro unlisted tool rfl
    exact unlisted ⟨tool, tool.mem_all, rfl⟩
  · rintro unknown ⟨tool, -, same⟩
    exact unknown tool same

namespace Server

/-! ## What a request asks for -/

/-- The arguments among the parameters; left out or `null`, these are an empty object. -/
def argumentsIn (params : Json) : Json :=
  match params.get? "arguments" with
  | none | some .null => .obj []
  | some arguments => arguments

/-- Parameters that make no sense: there are none, they name no tool, or the tool they name takes
arguments of another form. -/
inductive Misused : Option Json → Prop where
  | absent : Misused none
  | unnamed {params : Json} (unnamed : ∀ name, params.get? "name" ≠ some (.str name)) :
      Misused (some params)
  | mismatch {params : Json} {tool : Tool} {mismatch : Json.Mismatch}
      (named : params.get? "name" = some (.str tool.name)) (takes : tool ≠ .list)
      (refused : Tool.Call.ofJson tool (argumentsIn params) = .error mismatch) :
      Misused (some params)

theorem not_misused_of_unknown {params : Json} {name : String}
    (named : params.get? "name" = some (.str name)) (unknown : ∀ tool : Tool, tool.name ≠ name) :
    ¬ Misused (some params) := by
  rintro (_ | unnamed | ⟨other, -, -⟩)
  · exact unnamed name named
  · cases named.symm.trans other
    exact unknown _ rfl

theorem not_misused_of_ok {params : Json} {tool : Tool} {call : Tool.Call}
    (named : params.get? "name" = some (.str tool.name))
    (read : Tool.Call.ofJson tool (argumentsIn params) = .ok call) : ¬ Misused (some params) := by
  rintro (_ | unnamed | ⟨other, -, refused⟩)
  · exact unnamed _ named
  · have same := Json.str.inj (Option.some.inj (named.symm.trans other))
    cases Tool.name_injective same
    cases read.symm.trans refused

theorem toolCall_of_named {params : Json} {name : String}
    (named : params.get? "name" = some (.str name)) :
    toolCall (some params) = .ok (name, argumentsIn params) := by
  have arguments : ((params.get? "arguments").filter (!·.isNull)).getD (.obj []) =
      argumentsIn params := by
    unfold argumentsIn
    cases params.get? "arguments" with
    | none => rfl
    | some held => cases held <;> rfl
  simp only [toolCall, named, arguments, Option.bind_some, Json.text?]
  rfl

theorem toolCall_of_unnamed {params : Option Json}
    (unnamed : ∀ given, params = some given → ∀ name, given.get? "name" ≠ some (.str name)) :
    ∃ message, toolCall params = .error ⟨.invalidParams, message⟩ := by
  cases params with
  | none => exact ⟨_, rfl⟩
  | some given =>
    refine ⟨"Missing tool name", ?_⟩
    have none : (given.get? "name").bind Json.text? = none := by
      cases found : given.get? "name" with
      | none => rfl
      | some held =>
        cases held with
        | str name => exact absurd found (unnamed given rfl name)
        | _ => rfl
    simp only [toolCall, none]
    rfl

/-! ## What a call comes to -/

section
variable {World : Type} [Files.Access (StateM World)]

/-- The failures of the tools, each with what brings it about. -/
inductive Fails (server : Server) (world : World) : Tool.Call → Failure → Prop where
  | start {project key : String} (unknown : key ∉ Category.keys) :
      Fails server world (.start project key) (.unknownCategory key)
  | ask {key : String} (unknown : key ∉ Category.keys) :
      Fails server world (.ask key) (.unknownCategory key)
  | generate {project key : String} {requirements : Requirements}
      (unknown : key ∉ Category.keys) :
      Fails server world (.generate project key requirements) (.unknownCategory key)
  | collision {project first second : String} {category : Category}
      {requirements : Requirements} {before after : List String}
      (operations : Synthesis.resolve category requirements = before ++ second :: after)
      (distinct : (before.map Naming.handlerName).Nodup) (earlier : first ∈ before)
      (same : Naming.handlerName first = Naming.handlerName second) :
      Fails server world (.generate project category.key requirements)
        (.operationCollision first second (Naming.handlerName second))
  | notFound {project output : String} (missing : server.registry.find? project = none) :
      Fails server world (.save project output) (.projectNotFound project)
  | invalidName {project output : String} {bundle : Bundle}
      (held : server.registry.find? project = some bundle) (other : ¬ Path.EntryName project) :
      Fails server world (.save project output) (.invalidProjectName project)
  | write {project output : String} {bundle : Bundle} {root : Path}
      {failures : List (Path × Files.Fault)}
      (held : server.registry.find? project = some bundle)
      (failed : ((Save.run bundle ⟨output⟩ project : StateM World _).run world).1 =
        .error (.writeFailure root failures)) :
      Fails server world (.save project output) (.writeFailure root failures)

theorem run_perform_save {server : Server} {project output : String} {bundle : Bundle}
    (held : server.registry.find? project = some bundle) (world : World) :
    (server.perform (.save project output) : StateM World _).run world =
      let saved := (Save.run bundle ⟨output⟩ project : StateM World _).run world
      ((saved.1.map (Messages.saved project), server), saved.2) := by
  simp only [perform, Registry.get, held]
  rfl

/-- Every reason listed makes the tool fail. -/
theorem Fails.perform {server : Server} {world : World} {call : Tool.Call} {failure : Failure}
    (fails : server.Fails world call failure) :
    ((server.perform call : StateM World _).run world).1.1 = .error failure := by
  cases fails with
  | start unknown | ask unknown =>
    simp only [Server.perform, Category.ofKey_eq_error_iff.mpr ⟨unknown, rfl⟩]
    rfl
  | generate unknown =>
    simp only [Server.perform, Synthesis.run_eq_error_iff.mpr (.inl ⟨unknown, rfl⟩)]
    rfl
  | @collision project first second category requirements _ _ operations distinct earlier same =>
    have refused : Synthesis.run server.config project category.key requirements =
        .error (.operationCollision first second (Naming.handlerName second)) :=
      Synthesis.run_eq_error_iff.mpr (.inr ⟨category, rfl, ServerModel.build_eq_error_iff.mpr
        ⟨_, _, _, operations, _, earlier, same, distinct, rfl⟩⟩)
    simp only [Server.perform, refused]
    rfl
  | notFound missing =>
    simp only [Server.perform, Registry.get, missing]
    rfl
  | invalidName held other =>
    rw [run_perform_save held, Save.run_of_other other]
    rfl
  | write held failed =>
    rw [run_perform_save held]
    dsimp only
    rw [failed]
    rfl

/-- A tool fails for one of the reasons listed, or its text opens with a picture. -/
theorem perform_cases (server : Server) (call : Tool.Call) (world : World) :
    let outcome := ((server.perform call : StateM World _).run world).1.1
    (∃ failure, outcome = .error failure ∧ server.Fails world call failure) ∨
      ∃ text, outcome = .ok text ∧ ∃ c ∈ Messages.pictures, OpensWith text c := by
  intro outcome
  have failing {failure : Failure} (fails : server.Fails world call failure) :
      (∃ failure, outcome = .error failure ∧ server.Fails world call failure) ∨
        ∃ text, outcome = .ok text ∧ ∃ c ∈ Messages.pictures, OpensWith text c :=
    .inl ⟨failure, fails.perform, fails⟩
  cases call with
  | start project key =>
    cases known : Category.ofKey key with
    | error failure => exact failing (.start (Category.ofKey_eq_error_iff.mp known).1)
    | ok category =>
      refine .inr ⟨Messages.generationStarted project category, ?_, '🚀', by decide,
        Messages.generationStarted_opens project category⟩
      simp only [outcome, perform, known]
      rfl
  | ask key =>
    cases known : Category.ofKey key with
    | error failure => exact failing (.ask (Category.ofKey_eq_error_iff.mp known).1)
    | ok category =>
      refine .inr ⟨Messages.questions category, ?_, '📋', by decide,
        Messages.questions_opens category⟩
      simp only [outcome, perform, known]
      rfl
  | generate project key requirements =>
    cases made : Synthesis.run server.config project key requirements with
    | error failure =>
      rcases Synthesis.run_eq_error_iff.mp made with ⟨unknown, -⟩ | ⟨category, rfl, refused⟩
      · exact failing (.generate unknown)
      · obtain ⟨before, second, after, operations, first, earlier, same, distinct, -⟩ :=
          ServerModel.build_eq_error_iff.mp refused
        exact failing (.collision operations distinct earlier same)
    | ok synthesis =>
      refine .inr ⟨Messages.generated project synthesis, ?_, '🎉', by decide,
        Messages.generated_opens project synthesis⟩
      simp only [outcome, perform, made]
      rfl
  | list => exact .inr ⟨Messages.templates, rfl, '📦', by decide, Messages.templates_opens⟩
  | save project output =>
    cases held : server.registry.find? project with
    | none => exact failing (.notFound held)
    | some bundle =>
      by_cases entry : Path.EntryName project
      · rcases Save.run_cases entry bundle ⟨output⟩ world with ⟨files, saved⟩ | ⟨failures, failed⟩
        · refine .inr ⟨Messages.saved project ⟨(Path.mk output).join ⟨project⟩, files⟩, ?_, '💾',
            by decide, Messages.saved_opens _ _⟩
          simp only [outcome]
          rw [run_perform_save held]
          dsimp only
          rw [saved]
          rfl
        · exact failing (.write held failed)
      · exact failing (.invalidName held entry)

/-! ## Answers -/

theorem run_handle_call (server : Server) (id params : Option Json) (world : World) :
    (server.handle ⟨id, "tools/call", params⟩ : StateM World _).run world =
      match toolCall params with
      | .error error => ((⟨id, .error error⟩, server), world)
      | .ok (name, arguments) =>
        let called := (server.callTool name arguments : StateM World _).run world
        ((⟨id, called.1.1.map (·.toJson.sorted)⟩, called.1.2), called.2) := by
  simp only [handle, result]
  cases toolCall params <;> rfl

/-- A tool whose arguments can be read does what they make up. -/
theorem callTool_read [Monad m] [LawfulMonad m] [Files.Access m] (server : Server)
    {tool : Tool} {arguments : Json} {call : Tool.Call}
    (read : Tool.Call.ofJson tool arguments = .ok call) :
    server.callTool (m := m) tool.name arguments =
      (fun (outcome, server) => (.ok (.ofOutcome outcome), server)) <$> server.perform call := by
  simp only [callTool, Tool.ofName?_name, read, map_eq_pure_bind]

theorem run_callTool_of_ok {server : Server} {tool : Tool} {arguments : Json} {call : Tool.Call}
    (read : Tool.Call.ofJson tool arguments = .ok call) (world : World) :
    (server.callTool tool.name arguments : StateM World _).run world =
      let performed := (server.perform call : StateM World _).run world
      ((.ok (.ofOutcome performed.1.1), performed.1.2), performed.2) := by
  rw [callTool_read server read, StateT.run_map]
  rfl

theorem run_callTool_of_error {server : Server} {tool : Tool} {arguments : Json}
    {mismatch : Json.Mismatch} (refused : Tool.Call.ofJson tool arguments = .error mismatch)
    (world : World) :
    (server.callTool tool.name arguments : StateM World _).run world =
      ((.error ⟨.invalidParams, "Invalid arguments for " ++ tool.name ++ ": " ++
        mismatch.message⟩, server), world) := by
  simp only [callTool, Tool.ofName?_name, refused]
  rfl

theorem run_callTool_of_unknown {name : String} (unknown : ∀ tool : Tool, tool.name ≠ name)
    (server : Server) (arguments : Json) (world : World) :
    (server.callTool name arguments : StateM World _).run world =
      ((.ok (.unknownTool name), server), world) := by
  have none : Tool.ofName? name = none := by
    cases found : Tool.ofName? name with
    | none => rfl
    | some tool => exact absurd (Tool.ofName?_eq_some_iff.mp found) (unknown tool)
  simp only [callTool, none]
  rfl

/-- What a user is told of a call. -/
def told (server : Server) (call : Tool.Call) (world : World) : ToolResult :=
  .ofOutcome ((server.perform call : StateM World _).run world).1.1

section
variable {server : Server} {call : Tool.Call} {world : World}

theorem told_of_fails {failure : Failure} (fails : server.Fails world call failure) :
    server.told call world = ⟨"Error: " ++ failure.message, true⟩ := by
  rw [told, fails.perform]
  rfl

/-- A call that fails for no reason is told of by a text that opens with a picture. -/
theorem told_cases (server : Server) (call : Tool.Call) (world : World) :
    (∃ failure, server.Fails world call failure) ∨
      (∀ failure, ¬ server.Fails world call failure) ∧
        (server.told call world).isError = false ∧
        ∀ rest, (server.told call world).text ≠ "Error: " ++ rest := by
  rcases server.perform_cases call world with ⟨failure, -, fails⟩ | ⟨text, done, c, picture, opens⟩
  · exact .inl ⟨failure, fails⟩
  · rw [told, done]
    refine .inr ⟨fun failure fails => ?_, rfl, fun rest same => ?_⟩
    · cases done.symm.trans fails.perform
    · have error : OpensWith "Error: " 'E' := rfl
      have begins := error.append rest
      rw [← show text = "Error: " ++ rest from same] at begins
      cases opens.unique begins
      exact absurd picture (by decide)

theorem told_isError_iff :
    (server.told call world).isError = true ↔ ∃ failure, server.Fails world call failure := by
  rcases told_cases server call world with ⟨failure, fails⟩ | ⟨none, plain, -⟩
  · rw [told_of_fails fails]
    exact ⟨fun _ => ⟨failure, fails⟩, fun _ => rfl⟩
  · rw [plain]
    exact ⟨nofun, fun ⟨failure, fails⟩ => absurd fails (none failure)⟩

/-- The mark of an error agrees with how the text begins. -/
theorem told_isError_iff_text :
    (server.told call world).isError = true ↔
      ∃ rest, (server.told call world).text = "Error: " ++ rest := by
  rcases told_cases server call world with ⟨failure, fails⟩ | ⟨-, plain, other⟩
  · rw [told_of_fails fails]
    exact ⟨fun _ => ⟨_, rfl⟩, fun _ => rfl⟩
  · rw [plain]
    exact ⟨nofun, fun ⟨rest, same⟩ => absurd same (other rest)⟩

theorem told_ne_unknownTool (name : String) :
    (server.told call world).text ≠ (ToolResult.unknownTool name).text := by
  rw [ToolResult.text_unknownTool]
  rcases told_cases server call world with ⟨failure, fails⟩ | ⟨-, -, other⟩
  · rw [told_of_fails fails]
    exact fun same =>
      failure.message_ne_unknownTool name ((String.append_right_inj "Error: ").mp same)
  · exact other _

end

/-- A request for a tool is refused at once, or names an unknown tool, or has the tool run. -/
theorem handle_call_cases (server : Server) (id params : Option Json) (world : World) :
    let answered := (server.handle ⟨id, "tools/call", params⟩ : StateM World _).run world
    (Misused params ∧ ∃ message,
      answered = ((⟨id, .error ⟨.invalidParams, message⟩⟩, server), world)) ∨
    (∃ given name, params = some given ∧ given.get? "name" = some (.str name) ∧
      (∀ tool : Tool, tool.name ≠ name) ∧
      answered = ((⟨id, .ok (ToolResult.unknownTool name).toJson.sorted⟩, server), world)) ∨
    ∃ given tool call, params = some given ∧ given.get? "name" = some (.str tool.name) ∧
      Tool.Call.ofJson tool (argumentsIn given) = .ok call ∧
      answered.1.1.outcome = .ok (server.told call world).toJson.sorted := by
  intro answered
  have ran : answered = _ := run_handle_call server id params world
  by_cases named : ∃ given, params = some given ∧ ∃ name, given.get? "name" = some (.str name)
  · obtain ⟨given, rfl, name, named⟩ := named
    rw [toolCall_of_named named] at ran
    dsimp only at ran
    by_cases known : ∃ tool : Tool, tool.name = name
    · obtain ⟨tool, rfl⟩ := known
      cases read : Tool.Call.ofJson tool (argumentsIn given) with
      | error mismatch =>
        rw [run_callTool_of_error read] at ran
        refine .inl ⟨.mismatch named ?_ read, _, ran⟩
        rintro rfl
        cases read
      | ok call =>
        rw [run_callTool_of_ok read] at ran
        exact .inr (.inr ⟨given, tool, call, rfl, named, read, by rw [ran]; rfl⟩)
    · have unknown (tool : Tool) : tool.name ≠ name := fun same => known ⟨tool, same⟩
      rw [run_callTool_of_unknown unknown] at ran
      exact .inr (.inl ⟨given, name, rfl, named, unknown, ran⟩)
  · have unnamed (given) (same : params = some given) (name) :
        given.get? "name" ≠ some (.str name) := fun found => named ⟨given, same, name, found⟩
    obtain ⟨message, refused⟩ := toolCall_of_unnamed unnamed
    rw [refused] at ran
    refine .inl ⟨?_, message, ran⟩
    cases params with
    | none => exact .absent
    | some given => exact .unnamed (unnamed given rfl)

/-- Parameters that make no sense are answered with an error, and nothing is done; all others
have a result of one text. It is marked as an error exactly if it begins like one, and the failure
of a tool is reported in it. Only tools that are not listed are unknown. -/
theorem tools_fail_within_results (server : Server) (id params : Option Json) (world : World) :
    let answered := (server.handle ⟨id, "tools/call", params⟩ : StateM World _).run world
    let outcome := answered.1.1.outcome
    let listed := (server.handle ⟨id, "tools/list", none⟩ : StateM World _).run world
    ((∃ error, outcome = .error error) ↔ Misused params) ∧
    (∀ error, outcome = .error error →
      error.code.value = -32602 ∧ answered.1.2 = server ∧ answered.2 = world) ∧
    (∀ result, outcome = .ok result →
      ∃ text, HoldsText result text ∧ (MarksError result ↔ ∃ rest, text = "Error: " ++ rest)) ∧
    (∀ given tool call, params = some given → given.get? "name" = some (.str tool.name) →
      Tool.Call.ofJson tool (argumentsIn given) = .ok call →
      ∃ result text, outcome = .ok result ∧ HoldsText result text ∧
        (∀ failure, server.Fails world call failure → text = "Error: " ++ failure.message) ∧
        (MarksError result ↔ ∃ failure, server.Fails world call failure)) ∧
    ∃ listing, listed.1.1.outcome = .ok listing ∧
      ∀ given name, params = some given → given.get? "name" = some (.str name) →
        ((∃ result, outcome = .ok result ∧ HoldsText result ("Error: Unknown tool: " ++ name)) ↔
          name ∉ listedNames listing) := by
  intro answered outcome listed
  rcases handle_call_cases server id params world with ⟨misused, message, ran⟩ |
    ⟨given, name, rfl, named, unknown, ran⟩ | ⟨given, tool, call, rfl, named, read, ran⟩
  · have refused : outcome = .error ⟨.invalidParams, message⟩ := by
      simp only [outcome, answered, ran]
    rw [refused]
    refine ⟨⟨fun _ => misused, fun _ => ⟨_, rfl⟩⟩, ?_, nofun, ?_, toolsResult, rfl, ?_⟩
    · rintro error ⟨⟩
      rw [show answered = _ from ran]
      exact ⟨rfl, rfl, rfl⟩
    · rintro given tool call rfl named read
      exact absurd misused (not_misused_of_ok named read)
    · rintro given name rfl named
      rw [not_mem_listedNames]
      exact ⟨nofun, fun unknown => absurd misused (not_misused_of_unknown named unknown)⟩
  · have told : outcome = .ok (ToolResult.unknownTool name).toJson.sorted := by
      simp only [outcome, answered, ran]
    have reads := (ToolResult.unknownTool name).holdsText
    rw [told]
    refine ⟨⟨nofun, fun misused => absurd misused (not_misused_of_unknown named unknown)⟩, nofun,
      ?_, ?_, toolsResult, rfl, ?_⟩
    · rintro result ⟨⟩
      refine ⟨_, reads, ?_⟩
      rw [ToolResult.marksError_iff, ToolResult.text_unknownTool]
      exact ⟨fun _ => ⟨_, rfl⟩, fun _ => rfl⟩
    · rintro _ tool _ ⟨⟩ other -
      cases named.symm.trans other
      exact absurd rfl (unknown tool)
    · rintro _ _ ⟨⟩ other
      cases named.symm.trans other
      rw [not_mem_listedNames]
      exact ⟨fun _ => unknown, fun _ => ⟨_, rfl, reads⟩⟩
  · have reads := (server.told call world).holdsText
    have marks := (server.told call world).marksError_iff
    rw [show outcome = _ from ran]
    refine ⟨⟨nofun, fun misused => absurd misused (not_misused_of_ok named read)⟩, nofun, ?_, ?_,
      toolsResult, rfl, ?_⟩
    · rintro _ ⟨⟩
      exact ⟨_, reads, marks.trans told_isError_iff_text⟩
    · rintro _ other _ ⟨⟩ again reread
      cases Tool.name_injective (Json.str.inj (Option.some.inj (named.symm.trans again)))
      cases read.symm.trans reread
      exact ⟨_, _, rfl, reads, fun failure fails => congrArg ToolResult.text (told_of_fails fails),
        marks.trans told_isError_iff⟩
    · rintro _ name ⟨⟩ again
      cases named.symm.trans again
      rw [not_mem_listedNames]
      refine ⟨?_, fun unknown => absurd rfl (unknown tool)⟩
      rintro ⟨_, ⟨⟩, holds⟩
      exact absurd (reads.unique holds) (told_ne_unknownTool tool.name)

end

end Server

end ServerForge
