import ServerForge.ServerModel

/-! The program text of a generated server, line by line. Project and operation names enter it
as quoted literals or as identifiers only. -/
namespace ServerForge.ServerSource

def importLine (entry : String × String) : String :=
  "import \x7b " ++ entry.1 ++ " \x7d from \"" ++ entry.2 ++ "\";"

def constructorLine (model : ServerModel) : String :=
  "      \x7b name: " ++ Json.quote model.project ++ ", version: \"" ++ model.version ++ "\" \x7d,"

/-- The advertised operations, set in at the third level. -/
def toolsLine (model : ServerModel) : String :=
  "      tools: " ++ Json.prettyAt 3 (.arr (model.operations.map Operation.descriptor)) ++ ","

def caseLines (operation : Operation) : List String := [
  "          case " ++ Json.quote operation.label ++ ":",
  "            return await this." ++ operation.handler ++ "(args);"]

def stubLines (operation : Operation) : List String := [
  "",
  "  private async " ++ operation.handler ++ "(args: Record<string, unknown> | undefined) \x7b",
  "    const input = String(args?.input ?? \"\");",
  "    return \x7b content: [\x7b type: \"text\", text: " ++ Json.quote operation.label ++
    " + \" received: \" + input \x7d] \x7d;",
  "  \x7d"]

def runningMessage (model : ServerModel) : String :=
  model.project ++ " MCP server running on stdio"

/-- What comes before the advertised operations. -/
def opening (model : ServerModel) : List String :=
  ["#!/usr/bin/env node", ""] ++
  imports.map importLine ++
  ["",
    "class " ++ model.className ++ " \x7b",
    "  private server: Server;",
    "",
    "  constructor() \x7b",
    "    this.server = new Server(",
    constructorLine model,
    "      \x7b capabilities: \x7b tools: \x7b\x7d \x7d \x7d",
    "    );",
    "    this.setupHandlers();",
    "  \x7d",
    "",
    "  private setupHandlers() \x7b",
    "    this.server.setRequestHandler(ListToolsRequestSchema, async () => (\x7b"]

/-- From the advertised operations on to the dispatched ones. -/
def switchOpening : List String := [
  "    \x7d));",
  "",
  "    this.server.setRequestHandler(CallToolRequestSchema, async (request) => \x7b",
  "      const \x7b name, arguments: args \x7d = request.params;",
  "      try \x7b",
  "        switch (name) \x7b"]

/-- From the dispatched operations on to the handlers. -/
def switchClosing : List String := [
  "          default:",
  "            throw new Error(`Unknown tool: $\x7bname\x7d`);",
  "        \x7d",
  "      \x7d catch (error) \x7b",
  "        return \x7b",
  "          content: [\x7b type: \"text\", text: `Error: $\x7berror instanceof Error ? error.message : String(error)\x7d` \x7d],",
  "          isError: true,",
  "        \x7d;",
  "      \x7d",
  "    \x7d);",
  "  \x7d"]

/-- What comes after the handlers. -/
def closing (model : ServerModel) : List String := [
  "",
  "  async run() \x7b",
  "    const transport = new StdioServerTransport();",
  "    await this.server.connect(transport);",
  "    console.error(" ++ Json.quote (runningMessage model) ++ ");",
  "  \x7d",
  "\x7d",
  "",
  "async function main() \x7b",
  "  const server = new " ++ model.className ++ "();",
  "  await server.run();",
  "\x7d",
  "",
  "main().catch(console.error);"]

def lines (model : ServerModel) : List String :=
  opening model ++ [toolsLine model] ++ switchOpening ++ model.operations.flatMap caseLines ++
    switchClosing ++ model.operations.flatMap stubLines ++ closing model

def render (model : ServerModel) : String :=
  String.join ((lines model).map (· ++ "\n"))

end ServerForge.ServerSource
