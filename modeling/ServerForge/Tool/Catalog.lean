import ServerForge.Category.Basic

/-! The tools that the generator offers, with the arguments that each of them takes. -/
namespace ServerForge

inductive Tool where
  | start
  | ask
  | generate
  | list
  | save
  deriving DecidableEq, Repr

namespace Tool

/-- Every tool, in the order of listings. -/
def all : List Tool := [.start, .ask, .generate, .list, .save]

theorem mem_all (tool : Tool) : tool ∈ all := by cases tool <;> decide

def name : Tool → String
  | .start => "start_mcp_generation"
  | .ask => "ask_generation_questions"
  | .generate => "generate_mcp_server"
  | .list => "list_mcp_templates"
  | .save => "save_generated_mcp"

def ofName? (name : String) : Option Tool := all.find? (·.name == name)

@[simp] theorem ofName?_name (tool : Tool) : ofName? tool.name = some tool := by
  cases tool <;> rfl

theorem ofName?_eq_some_iff {name : String} {tool : Tool} :
    ofName? name = some tool ↔ tool.name = name := by
  constructor
  · intro found
    simpa using List.find?_some found
  · rintro rfl
    exact ofName?_name tool

theorem name_injective {a b : Tool} (same : a.name = b.name) : a = b :=
  Option.some.inj (by rw [← ofName?_name a, same, ofName?_name])

def description : Tool → String
  | .start => "Start the process of generating a new MCP server"
  | .ask => "Get the specific questions for the chosen MCP server type"
  | .generate => "Generate the complete MCP server code based on requirements"
  | .list => "List available MCP server templates and their descriptions"
  | .save => "Save the generated MCP server files to disk"

/-! ## Schemas -/

def textSchema (description : String) : Json :=
  .object [("type", .str "string"), ("description", .str description)]

def categorySchema (description : String) : Json :=
  .object [("type", .str "string"), ("enum", Json.texts Category.keys),
    ("description", .str description)]

def textListSchema : Json :=
  .object [("type", .str "array"), ("items", .object [("type", .str "string")])]

def requirementsSchema : Json := .object [
  ("type", .str "object"),
  ("description", .str "Detailed requirements and answers to questions"),
  ("properties", .object [
    ("purpose", .object [("type", .str "string")]),
    ("tools", textListSchema),
    ("config", .object [("type", .str "object")]),
    ("dependencies", textListSchema)])]

def objectSchema (properties : Json.Members) (required : List String) : Json :=
  .object ([("type", .str "object"), ("properties", .object properties)] ++
    if required.isEmpty then [] else [("required", Json.texts required)])

def inputSchema : Tool → Json
  | .start => objectSchema [
      ("projectName", textSchema "Name for the new MCP server project"),
      ("serverType", categorySchema "Type of MCP server to generate")]
      ["projectName", "serverType"]
  | .ask => objectSchema [("serverType", categorySchema "Type of MCP server")] ["serverType"]
  | .generate => objectSchema [
      ("projectName", textSchema "Name of the MCP server project"),
      ("serverType", categorySchema "Type of MCP server"),
      ("requirements", requirementsSchema)]
      ["projectName", "serverType"]
  | .list => objectSchema [] []
  | .save => objectSchema [
      ("projectName", textSchema "Name of the MCP server project"),
      ("outputPath", textSchema "Path where to save the generated files")]
      ["projectName", "outputPath"]

def definition (tool : Tool) : Json := .obj [
  ("name", .str tool.name),
  ("description", .str tool.description),
  ("inputSchema", tool.inputSchema)]

def definitions : Json := .arr (all.map definition)

end Tool

end ServerForge
