import ServerForge.Command.Generate
import ServerForge.Server

/-! Running a command, from its arguments to its exit code. -/
namespace ServerForge.Command

/-- Fills a text up with spaces. -/
def padded (width : Nat) (text : String) : String :=
  text ++ String.ofList (List.replicate (width - text.length) ' ')

def templateRow (category : Category) : String :=
  padded 10 category.key ++ " " ++ padded 28 category.name ++ " " ++
    (if category.defaultOperations.isEmpty then "(defined by requirements)"
    else Messages.joined ", " category.defaultOperations) ++ "\n" ++
  padded 10 "" ++ " " ++ category.description ++ "\n"

def templateTable : String :=
  padded 10 "Type" ++ " " ++ padded 28 "Name" ++ " " ++ padded 40 "Default tools" ++ "\n" ++
  String.ofList (List.replicate 80 '-') ++ "\n" ++
  String.join (Category.all.map templateRow)

def statusText : String :=
  "\n● " ++ serverName ++ " Server Status\n\n  ▸ " ++ Text.numeral Tool.all.length ++ " tools\n\n" ++
  "  Tools\n\n" ++
  String.join (Tool.all.map fun tool => "    " ++ tool.name ++ " " ++ tool.description ++ "\n") ++
  "\n  Configuration\n\n  ▸ Claude Desktop / Claude Code (.mcp.json):\n\n" ++
  "  \x7b\n    \"mcpServers\": \x7b\n      \"" ++ serverName ++ "\": \x7b\n" ++
  "        \"command\": \"" ++ programName ++ "\",\n        \"args\": [\"mcp\", \"stdio\"]\n" ++
  "      \x7d\n    \x7d\n  \x7d\n\n"

/-- The server between two lines, or why it stopped. -/
structure Serving where
  server : Server
  stopped : Option Text.Utf8.Fault

def serveLine [Monad m] [Files.Access m] [Console m] (serving : Serving) (line : List UInt8) :
    m (Serving × Bool) := do
  match Text.Utf8.decode line with
  | .error fault => return ({ serving with stopped := some fault }, false)
  | .ok cs =>
    let (response, server) ← serving.server.answer (String.ofList cs)
    match response with
    | none => return ({ serving with server }, true)
    | some response =>
      say (Server.responseLine response ++ "\n")
      return ({ serving with server }, true)

def runServer [Monad m] [Files.Access m] [Console m] (config : Config) : m (Except Report Unit) := do
  let serving ← foldInput ⟨.fresh config, none⟩ serveLine
  match serving.stopped with
  | none => return .ok ()
  | some fault => return .error ⟨fault.message, []⟩

def Action.run [Monad m] [Files.Access m] [Console m] (config : Config) :
    Action → m (Except Report Unit)
  | .serve => runServer config
  | .status => do
    say statusText
    return .ok ()
  | .templates => do
    say templateTable
    return .ok ()
  | .questions key =>
    match Category.ofKey key with
    | .error failure => return .error (.ofFailure failure)
    | .ok category => do
      say (questionText category)
      return .ok ()
  | .generate options => Generate.run config options

/-- Makes the log file ready, with the directory that holds it. -/
def openLogFile [Monad m] [Files.Access m] : Option Path → m (Except Files.Fault Unit)
  | none => return .ok ()
  | some path =>
    match path.parent? with
    | none => Files.openLog path
    | some parent => do
      match ← Files.makeDirectories parent with
      | .error fault => return .error fault
      | .ok () => Files.openLog path

def Invocation.run [Monad m] [Files.Access m] [Console m] (invocation : Invocation) :
    m (Except Report Unit) := do
  match ← openLogFile invocation.logFile with
  | .error fault => return .error ⟨fault.message, []⟩
  | .ok () =>
    match ← Config.load invocation.config with
    | .error failure => return .error (.ofFailure failure)
    | .ok config => invocation.action.run config

/-- The exit code, and what is reported of a failure. -/
structure Exit where
  code : Nat
  report : Option Report

def main [Monad m] [Files.Access m] [Console m] (environment : Environment)
    (arguments : List String) : m Exit := do
  match Invocation.read environment arguments with
  | .error .usage => return ⟨2, none⟩
  | .error .help =>
    say usage
    return ⟨0, none⟩
  | .error (.version command) =>
    say (command ++ " " ++ version ++ "\n")
    return ⟨0, none⟩
  | .ok invocation =>
    match ← invocation.run with
    | .ok () => return ⟨0, none⟩
    | .error report => return ⟨1, some report⟩

end ServerForge.Command
