import ServerForge.Category.Basic
import ServerForge.Config
import ServerForge.Requirements
import ServerForge.ServerModel

/-! The readme of a generated server, section by section. -/
namespace ServerForge.Readme

def title (model : ServerModel) (category : Category) : String :=
  "# " ++ model.project ++ "\n\nGenerated MCP server for " ++ category.key ++ " operations.\n\n"

def purpose (requirements : Requirements) (config : Config) : String :=
  "## Purpose\n\n" ++
    requirements.purposeText.getD ("Custom MCP server generated by " ++ config.generatorName) ++
    "\n\n"

def bullet (label : String) : String :=
  "- `" ++ label ++ "`: Generated tool: " ++ label ++ " (input: `input` string)\n"

def tools (model : ServerModel) : String :=
  "## Tools\n\n" ++
    (if model.operations.isEmpty then
      "No tools defined yet. Add cases to the dispatcher in `src/index.ts`.\n"
    else String.join (model.labels.map bullet)) ++ "\n"

def installation : String :=
  "## Installation\n\n```bash\nnpm install\nnpm run build\n```\n\n"

def usage : String := "## Usage\n\n```bash\nnpm start\n```\n\n"

/-- A value in a fence of its own. -/
def fenced (value : Json) : String := "```json\n" ++ value.pretty ++ "\n```\n\n"

/-- The entry with which a client starts a server. -/
def clientEntry (project entryPoint : String) : Json :=
  .obj [(project, .object [("command", .str "node"), ("args", Json.texts [entryPoint])])]

def configuration (model : ServerModel) : String :=
  "## Configuration\n\nAdd to your Claude Desktop MCP configuration:\n\n" ++
    fenced (clientEntry model.project ("path/to/" ++ model.project ++ "/build/index.js"))

def settings (requirements : Requirements) : String :=
  match requirements.config with
  | some (member :: members) =>
    "## Server Settings\n\nRequested at generation time:\n\n" ++ fenced (.obj (member :: members))
  | _ => ""

def credits (config : Config) : String :=
  "## Generated by " ++ config.generatorName ++
    "\n\nThis server was automatically generated by the " ++ config.generatorName ++ ".\n"

def render (model : ServerModel) (category : Category) (requirements : Requirements)
    (config : Config) : String :=
  title model category ++ purpose requirements config ++ tools model ++ installation ++ usage ++
    configuration model ++ settings requirements ++ credits config

end ServerForge.Readme
