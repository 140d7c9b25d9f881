import ServerForge.Files.Tree
import ServerForge.Proofs.ReadValues
import ServerForge.Server

/-! What the registry holds after any run of a server. A run is a list of events: tools called by
name, requests, and whole streams that are served. Main statement: whatever the events are and
whatever the files do, a project's entry is the bundle of its last generation that succeeded. -/
namespace ServerForge

/-- The bundle that a call makes of a project, if it is a generation of it that succeeds. -/
def Tool.Call.bundle? (config : Config) (project : String) : Tool.Call → Option Bundle
  | .generate name categoryKey requirements =>
    if name = project then
      (Synthesis.run config name categoryKey requirements).toOption.map (·.bundle)
    else none
  | _ => none

/-- Only one tool generates. -/
theorem Tool.Call.tool_of_generate {tool : Tool} {arguments : Json}
    {project categoryKey : String} {requirements : Requirements}
    (read : ofJson tool arguments = .ok (.generate project categoryKey requirements)) :
    tool = .generate := by
  cases tool with
  | generate => rfl
  | list => cases read
  | start | ask | save =>
    obtain ⟨arguments, -, made⟩ := Json.map_eq_ok.mp read
    cases made

namespace Server

/-! ## The calls that an event makes -/

/-- The call of a tool, unless there is no such tool or the arguments are not of its form. -/
def namedCall? (name : String) (arguments : Json) : Option Tool.Call := do
  let tool ← Tool.ofName? name
  (Tool.Call.ofJson tool arguments).toOption

def requestedCall? (request : Rpc.Request) : Option Tool.Call :=
  if request.method = "tools/call" then do
    let (name, arguments) ← (toolCall request.params).toOption
    namedCall? name arguments
  else none

/-- The request on a line that is answered as one. -/
def lineRequest? (line : String) : Option Rpc.Request :=
  if Text.isBlank line then none
  else (Rpc.requestRecord.parse line).toOption.filter (·.id.isSome)

/-- The calls on the lines of a stream, up to the first line that is no UTF-8. -/
def streamCalls : List (List UInt8) → List Tool.Call
  | [] => []
  | line :: rest =>
    match Text.Utf8.decode line with
    | .error _ => []
    | .ok cs => ((lineRequest? (String.ofList cs)).bind requestedCall?).toList ++ streamCalls rest

/-- A line that is blank, is no request or is a notification. -/
def Inert (line : String) : Prop :=
  Text.isBlank line = true ∨ (∃ fault, Rpc.requestRecord.parse line = .error fault) ∨
    ∃ request, Rpc.requestRecord.parse line = .ok request ∧ request.id = none

theorem lineRequest?_eq_none {line : String} (inert : Inert line) :
    lineRequest? line = none := by
  unfold lineRequest?
  obtain blank | ⟨fault, read⟩ | ⟨request, read, silent⟩ := inert
  · rw [if_pos blank]
  · rw [read]
    exact ite_self none
  · simp [read, Except.toOption, Option.filter, silent]

inductive Event where
  | call (name : String) (arguments : Json)
  | request (asked : Rpc.Request)
  | stream (input : List UInt8)

def Event.calls : Event → List Tool.Call
  | .call name arguments => (namedCall? name arguments).toList
  | .request asked => (requestedCall? asked).toList
  | .stream input => streamCalls (Text.byteLines input)

/-- The bundle of the last call that generates a project. -/
def latest? (config : Config) (project : String) (calls : List Tool.Call) : Option Bundle :=
  calls.reverse.findSome? (·.bundle? config project)

/-! ## One call -/

section
variable [Monad m] [Files.Access m]

def step (server : Server) : Event → m Server
  | .call name arguments => do
    let (_, server) ← server.callTool name arguments
    return server
  | .request asked => do
    let (_, server) ← server.handle asked
    return server
  | .stream input => do
    let (_, server) ← server.serve input
    return server

def steps (server : Server) : List Event → m Server
  | [] => return server
  | event :: events => do
    let server ← server.step event
    server.steps events

end

/-- What a call makes of the server, the files left aside. -/
def afterCall (server : Server) : Tool.Call → Server
  | .generate project categoryKey requirements =>
    match Synthesis.run server.config project categoryKey requirements with
    | .error _ => server
    | .ok synthesis => { server with registry := server.registry.put project synthesis.bundle }
  | _ => server

theorem afterCall_config (server : Server) (call : Tool.Call) :
    (server.afterCall call).config = server.config := by
  unfold afterCall
  split
  · split <;> rfl
  · rfl

/-- A call gives a project its bundle if it makes one, and leaves all other entries. -/
theorem afterCall_find? (server : Server) (call : Tool.Call) (project : String) :
    (server.afterCall call).registry.find? project =
      (call.bundle? server.config project).or (server.registry.find? project) := by
  cases call with
  | generate name categoryKey requirements =>
    simp only [afterCall, Tool.Call.bundle?]
    cases made : Synthesis.run server.config name categoryKey requirements with
    | error failure => simp [Except.toOption]
    | ok synthesis =>
      by_cases same : name = project
      · subst same
        simp [Except.toOption]
      · simp [same, Registry.find?_put_other _ _ (Ne.symm same)]
  | start | ask | list | save => rfl

theorem afterCalls_config (server : Server) (calls : List Tool.Call) :
    (calls.foldl afterCall server).config = server.config := by
  induction calls generalizing server with
  | nil => rfl
  | cons call calls ih => exact (ih _).trans (afterCall_config server call)

theorem afterCalls_find? (server : Server) (calls : List Tool.Call) (project : String) :
    (calls.foldl afterCall server).registry.find? project =
      (latest? server.config project calls).or (server.registry.find? project) := by
  induction calls generalizing server with
  | nil => rfl
  | cons call calls ih =>
    rw [List.foldl_cons, ih, afterCall_config, afterCall_find?, latest?, latest?,
      List.reverse_cons, List.findSome?_append, Option.or_assoc]
    simp

/-! ## One event

The files may do anything: `World` is whatever their operations read and change. -/

section
variable {World : Type} [Files.Access (StateM World)]

theorem perform_server (server : Server) (call : Tool.Call) (world : World) :
    ((server.perform call : StateM World _).run world).1.2 = server.afterCall call := by
  cases call with
  | generate project categoryKey requirements =>
    simp only [perform, afterCall]
    cases Synthesis.run server.config project categoryKey requirements <;> rfl
  | save project output =>
    simp only [perform, afterCall]
    cases server.registry.get project <;> rfl
  | start | ask | list => rfl

theorem callTool_server (server : Server) (name : String) (arguments : Json) (world : World) :
    ((server.callTool name arguments : StateM World _).run world).1.2 =
      (namedCall? name arguments).toList.foldl afterCall server := by
  unfold callTool namedCall?
  cases Tool.ofName? name with
  | none => rfl
  | some tool =>
    cases read : Tool.Call.ofJson tool arguments with
    | error mismatch => simp [read, Except.toOption]; rfl
    | ok call =>
      simp [read, Except.toOption]
      exact perform_server server call world

/-- Of all methods only the call of a tool can change the server. -/
theorem result_server (server : Server) (request : Rpc.Request) (world : World) :
    ((server.result request : StateM World _).run world).1.2 =
      (requestedCall? request).toList.foldl afterCall server := by
  unfold result requestedCall?
  split
  next isInitialize => rw [if_neg (by rw [isInitialize]; decide)]; rfl
  next isPing => rw [if_neg (by rw [isPing]; decide)]; rfl
  next isListing => rw [if_neg (by rw [isListing]; decide)]; rfl
  next isCall =>
    rw [if_pos isCall]
    cases named : toolCall request.params with
    | error error => rfl
    | ok called => exact callTool_server server called.1 called.2 world
  next noInitialize noPing noListing noCall => rw [if_neg noCall]; rfl

theorem handle_server (server : Server) (request : Rpc.Request) (world : World) :
    ((server.handle request : StateM World _).run world).1.2 =
      (requestedCall? request).toList.foldl afterCall server :=
  result_server server request world

/-- A line that is not answered as a request changes nothing, whatever it names. -/
theorem answer_server (server : Server) (line : String) (world : World) :
    ((server.answer line : StateM World _).run world).1.2 =
      ((lineRequest? line).bind requestedCall?).toList.foldl afterCall server := by
  unfold answer lineRequest?
  by_cases blank : Text.isBlank line
  · simp only [blank, if_true]
    rfl
  · simp only [blank, Bool.false_eq_true, if_false]
    cases read : Rpc.requestRecord.parse line with
    | error fault => rfl
    | ok request =>
      by_cases silent : request.id.isNone
      · simp [Except.toOption, Option.filter, Option.isNone_iff_eq_none.mp silent]
        rfl
      · have kept : (Except.toOption (.ok request : Except Json.Fault Rpc.Request)).filter
            (·.id.isSome) = some request := by
          simpa [Except.toOption, Option.filter, Option.isSome_iff_ne_none] using silent
        simp only [kept, silent, Bool.false_eq_true, if_false, Option.bind_some]
        exact handle_server server request world

theorem serveLines_server (server : Server) (lines : List (List UInt8)) (world : World) :
    ((server.serveLines lines : StateM World _).run world).1.2 =
      (streamCalls lines).foldl afterCall server := by
  induction lines generalizing server world with
  | nil => rfl
  | cons line lines ih =>
    unfold serveLines streamCalls
    cases Text.Utf8.decode line with
    | error fault => rfl
    | ok cs =>
      rw [List.foldl_append, ← answer_server server (String.ofList cs) world]
      exact ih _ _

theorem step_server (server : Server) (event : Event) (world : World) :
    ((server.step event : StateM World _).run world).1 = event.calls.foldl afterCall server := by
  cases event with
  | call name arguments => exact callTool_server server name arguments world
  | request asked => exact handle_server server asked world
  | stream input => exact serveLines_server server (Text.byteLines input) world

theorem steps_server (server : Server) (events : List Event) (world : World) :
    ((server.steps events : StateM World _).run world).1 =
      (events.flatMap Event.calls).foldl afterCall server := by
  induction events generalizing server world with
  | nil => rfl
  | cons event events ih =>
    rw [List.flatMap_cons, List.foldl_append, ← step_server server event world]
    exact ih _ _

/-- A tool leaves the server as it is, unless it generates a project and succeeds; then it changes
the entry of that project alone. -/
theorem callTool_cases (server : Server) (name : String) (arguments : Json) (world : World) :
    ((server.callTool name arguments : StateM World _).run world).1.2 = server ∨
    name = Tool.generate.name ∧
      ∃ project categoryKey requirements synthesis text,
        Tool.Call.ofJson .generate arguments = .ok (.generate project categoryKey requirements) ∧
        Synthesis.run server.config project categoryKey requirements = .ok synthesis ∧
        ((server.callTool name arguments : StateM World _).run world).1 =
          (.ok ⟨text, false⟩,
            { server with registry := server.registry.put project synthesis.bundle }) := by
  have changed := callTool_server server name arguments world
  unfold namedCall? at changed
  cases found : Tool.ofName? name with
  | none => exact .inl (by simpa [found] using changed)
  | some tool =>
    obtain rfl : tool.name = name := Tool.ofName?_eq_some_iff.mp found
    cases read : Tool.Call.ofJson tool arguments with
    | error mismatch => exact .inl (by simpa [read, Except.toOption] using changed)
    | ok call =>
      have after : ((server.callTool tool.name arguments : StateM World _).run world).1.2 =
          server.afterCall call := by simpa [read, Except.toOption] using changed
      cases call with
      | generate project categoryKey requirements =>
        cases made : Synthesis.run server.config project categoryKey requirements with
        | error failure => exact .inl (by simpa [afterCall, made] using after)
        | ok synthesis =>
          obtain rfl := Tool.Call.tool_of_generate read
          refine .inr ⟨rfl, project, categoryKey, requirements, synthesis,
            Messages.generated project synthesis, read, made, ?_⟩
          simp only [callTool, found, read, perform, made]
          rfl
      | start | ask | list | save => exact .inl after

theorem steps_find? (config : Config) (events : List Event) (world : World) (project : String) :
    (((fresh config).steps events : StateM World _).run world).1.registry.find? project =
      latest? config project (events.flatMap Event.calls) := by
  rw [steps_server, afterCalls_find?]
  exact Option.or_none

theorem steps_get (config : Config) (events : List Event) (world : World) (project : String) :
    (((fresh config).steps events : StateM World _).run world).1.registry.get project =
      match latest? config project (events.flatMap Event.calls) with
      | some bundle => .ok bundle
      | none => .error (.projectNotFound project) := by
  rw [Registry.get, steps_find?]
  rfl

theorem callTool_get (server : Server) (name : String) (arguments : Json) (world : World)
    (project : String) :
    let called := ((server.callTool name arguments : StateM World _).run world).1
    called.2.registry.get project = server.registry.get project ∨
    name = Tool.generate.name ∧ ∃ categoryKey requirements synthesis text,
      Tool.Call.ofJson .generate arguments = .ok (.generate project categoryKey requirements) ∧
      Synthesis.run server.config project categoryKey requirements = .ok synthesis ∧
      called.1 = .ok ⟨text, false⟩ ∧ called.2.registry.get project = .ok synthesis.bundle := by
  intro called
  obtain kept | ⟨generates, other, categoryKey, requirements, synthesis, text, read, made,
    after⟩ := callTool_cases server name arguments world
  · exact .inl (by rw [show called.2 = server from kept])
  · have outcome : called = _ := after
    rw [outcome]
    by_cases mine : other = project
    · subst mine
      refine .inr ⟨generates, categoryKey, requirements, synthesis, text, read, made, rfl, ?_⟩
      simp only [Registry.get, Registry.find?_put_same]
      rfl
    · exact .inl (by simp only [Registry.get, Registry.find?_put_other _ _ (Ne.symm mine)])

/-- A project's entry is the bundle of its last generation that succeeded, after any events. Any
call of a tool then leaves the entry as it is, unless it is the next such generation, and so do
other methods and lines that are not answered as requests. -/
theorem registry_holds_last_generation (config : Config) (events : List Event) (world : World)
    (project : String) :
    let server := (((fresh config).steps events : StateM World _).run world).1
    (server.registry.get project =
      match latest? config project (events.flatMap Event.calls) with
      | some bundle => .ok bundle
      | none => .error (.projectNotFound project)) ∧
    (∀ name arguments (world : World),
      let called := ((server.callTool name arguments : StateM World _).run world).1
      called.2.registry.get project = server.registry.get project ∨
      name = Tool.generate.name ∧ ∃ categoryKey requirements synthesis text,
        Tool.Call.ofJson .generate arguments = .ok (.generate project categoryKey requirements) ∧
        Synthesis.run config project categoryKey requirements = .ok synthesis ∧
        called.1 = .ok ⟨text, false⟩ ∧ called.2.registry.get project = .ok synthesis.bundle) ∧
    (∀ request (world : World), request.method ≠ "tools/call" →
      ((server.handle request : StateM World _).run world).1.2 = server) ∧
    ∀ line (world : World), Inert line →
      ((server.answer line : StateM World _).run world).1.2 = server := by
  intro server
  have same : server.config = config := by
    have reached := steps_server (fresh config) events world
    rw [show server = _ from reached]
    exact afterCalls_config (fresh config) _
  refine ⟨steps_get config events world project, ?_, ?_, ?_⟩
  · intro name arguments world
    have called := callTool_get server name arguments world project
    rwa [same] at called
  · intro request world other
    rw [handle_server, requestedCall?, if_neg other]
    rfl
  · intro line world inert
    rw [answer_server, lineRequest?_eq_none inert]
    rfl

end

def generation (categoryKey : String) : Event :=
  .call "generate_mcp_server"
    (.obj [("projectName", .str "alpha"), ("serverType", .str categoryKey)])

/-- A generation that succeeds, one that fails, and a save. -/
def regeneration : List Event := [generation "basic", generation "nosuch",
  .call "save_generated_mcp" (.obj [("projectName", .str "alpha"), ("outputPath", .str "out")])]

theorem registry_keeps_older_generation :
    let server := (((fresh .default).steps regeneration : StateM Files.Tree _).run ⟨[], []⟩).1
    (∃ synthesis, Synthesis.run .default "alpha" "basic" .empty = .ok synthesis ∧
      server.registry.get "alpha" = .ok synthesis.bundle) ∧
    ((server.handle ⟨none, "ping", none⟩ : StateM Files.Tree _).run ⟨[], []⟩).1.2 = server ∧
    ((server.answer " " : StateM Files.Tree _).run ⟨[], []⟩).1.2 = server := by
  intro server
  obtain ⟨held, -, other, line⟩ :=
    registry_holds_last_generation .default regeneration (⟨[], []⟩ : Files.Tree) "alpha"
  refine ⟨?_, other ⟨none, "ping", none⟩ ⟨[], []⟩ (by decide), line " " ⟨[], []⟩ (.inl rfl)⟩
  have succeeds : (Synthesis.run .default "alpha" "basic" .empty).isOk = true := by decide
  have calls : regeneration.flatMap Event.calls = [.generate "alpha" "basic" .empty,
    .generate "alpha" "nosuch" .empty, .save "alpha" "out"] := by rfl
  have unknown : Synthesis.run .default "alpha" "nosuch" .empty =
    .error (.unknownCategory "nosuch") := by rfl
  cases made : Synthesis.run .default "alpha" "basic" .empty with
  | error failure => simp [made, Except.isOk, Except.toBool] at succeeds
  | ok synthesis =>
    refine ⟨synthesis, rfl, held.trans ?_⟩
    simp [calls, latest?, Tool.Call.bundle?, made, unknown, Except.toOption]

end Server

end ServerForge
