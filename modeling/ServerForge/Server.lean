import ServerForge.Json.Sorted
import ServerForge.Messages
import ServerForge.Registry
import ServerForge.Rpc
import ServerForge.Text.Utf8
import ServerForge.Tool.Call

/-! The generator as a server: it answers one request per line. A tool that fails still gives a
result, marked as an error; only a request that makes no sense gets an error response. -/
namespace ServerForge

/-- The name under which the generator introduces itself. -/
def serverName : String := "meta-mcp-generator"

def version : String := "0.1.0"

/-- The revision of the protocol that the generator speaks. -/
def protocolVersion : String := "2024-11-05"

/-- The one text that a tool gives back. -/
structure ToolResult where
  text : String
  isError : Bool

namespace ToolResult

def ofOutcome : Except Failure String → ToolResult
  | .ok text => ⟨text, false⟩
  | .error failure => ⟨"Error: " ++ failure.message, true⟩

def unknownTool (name : String) : ToolResult := ⟨"Error: Unknown tool: " ++ name, true⟩

def toJson (result : ToolResult) : Json :=
  .obj ([("content", .arr [.obj [("type", .str "text"), ("text", .str result.text)]])] ++
    if result.isError then [("isError", .bool true)] else [])

end ToolResult

structure Server where
  config : Config
  registry : Registry

namespace Server

def fresh (config : Config) : Server := ⟨config, .empty⟩

/-- Only a generation that succeeds changes the registry, and only saving touches files. -/
def perform [Monad m] [Files.Access m] (server : Server) :
    Tool.Call → m (Except Failure String × Server)
  | .start project categoryKey =>
    return ((Messages.generationStarted project ·) <$> Category.ofKey categoryKey, server)
  | .ask categoryKey => return (Messages.questions <$> Category.ofKey categoryKey, server)
  | .generate project categoryKey requirements =>
    match Synthesis.run server.config project categoryKey requirements with
    | .error failure => return (.error failure, server)
    | .ok synthesis =>
      return (.ok (Messages.generated project synthesis),
        { server with registry := server.registry.put project synthesis.bundle })
  | .list => return (.ok Messages.templates, server)
  | .save project output =>
    match server.registry.get project with
    | .error failure => return (.error failure, server)
    | .ok bundle => do
      let written ← Save.run bundle ⟨output⟩ project
      return (written.map (Messages.saved project), server)

/-- Runs a tool by its name. Arguments of the wrong form are the caller's error. -/
def callTool [Monad m] [Files.Access m] (server : Server) (name : String) (arguments : Json) :
    m (Except Rpc.Error ToolResult × Server) :=
  match Tool.ofName? name with
  | none => return (.ok (.unknownTool name), server)
  | some tool =>
    match Tool.Call.ofJson tool arguments with
    | .error mismatch =>
      return (.error ⟨.invalidParams, "Invalid arguments for " ++ name ++ ": " ++
        mismatch.message⟩, server)
    | .ok call => do
      let (outcome, server) ← server.perform call
      return (.ok (.ofOutcome outcome), server)

/-- The tool that the parameters name, and its arguments; left out, these are an empty object. -/
def toolCall (params : Option Json) : Except Rpc.Error (String × Json) :=
  match params with
  | none => throw ⟨.invalidParams, "Missing params"⟩
  | some params =>
    match (params.get? "name").bind Json.text? with
    | none => throw ⟨.invalidParams, "Missing tool name"⟩
    | some name =>
      return (name, ((params.get? "arguments").filter (!·.isNull)).getD (.obj []))

def initializeResult : Json := .object [
  ("protocolVersion", .str protocolVersion),
  ("serverInfo", .object [("name", .str serverName), ("version", .str version)]),
  ("capabilities", .object [("tools", .obj [])])]

def toolsResult : Json := .obj [("tools", Tool.definitions.sorted)]

def result [Monad m] [Files.Access m] (server : Server) (request : Rpc.Request) :
    m (Except Rpc.Error Json × Server) :=
  match request.method with
  | "initialize" => return (.ok initializeResult, server)
  | "ping" => return (.ok (.obj []), server)
  | "tools/list" => return (.ok toolsResult, server)
  | "tools/call" =>
    match toolCall request.params with
    | .error error => return (.error error, server)
    | .ok (name, arguments) => do
      let (outcome, server) ← server.callTool name arguments
      return (outcome.map (·.toJson.sorted), server)
  | method => return (.error ⟨.methodNotFound, "Method not found: " ++ method⟩, server)

def handle [Monad m] [Files.Access m] (server : Server) (request : Rpc.Request) :
    m (Rpc.Response × Server) := do
  let (outcome, server) ← server.result request
  return (⟨request.id, outcome⟩, server)

/-- A line that is no request is answered without an id, a notification not at all. -/
def answer [Monad m] [Files.Access m] (server : Server) (line : String) :
    m (Option Rpc.Response × Server) :=
  if Text.isBlank line then return (none, server)
  else match Rpc.requestRecord.parse line with
    | .error fault =>
      return (some ⟨none, .error ⟨.parseError, "Parse error: " ++ fault.message line.toList⟩⟩,
        server)
    | .ok request =>
      if request.id.isNone then return (none, server)
      else do
        let (response, server) ← server.handle request
        return (some response, server)

/-- The line with which a response is written. -/
def responseLine (response : Rpc.Response) : String := response.toJson.compact

/-- What came of a whole stream of lines: the lines written, and why it ended early, if so. -/
structure Served where
  output : List String
  stopped : Option Text.Utf8.Fault

/-- Answers lines until one of them is no UTF-8. -/
def serveLines [Monad m] [Files.Access m] (server : Server) :
    List (List UInt8) → m (Served × Server)
  | [] => return (⟨[], none⟩, server)
  | line :: rest =>
    match Text.Utf8.decode line with
    | .error fault => return (⟨[], some fault⟩, server)
    | .ok cs => do
      let (response, server) ← server.answer (String.ofList cs)
      let (served, server) ← server.serveLines rest
      return ({ served with output := (response.map responseLine).toList ++ served.output },
        server)

def serve [Monad m] [Files.Access m] (server : Server) (input : List UInt8) :
    m (Served × Server) :=
  server.serveLines (Text.byteLines input)

end Server

end ServerForge
