import ServerForge.Category.Questions
import ServerForge.Save
import ServerForge.Synthesis

/-! What the tools of the generator tell a user. -/
namespace ServerForge.Messages

def joined (separator : String) (texts : List String) : String := separator.intercalate texts

def defaultTools (category : Category) : String :=
  if category.defaultOperations.isEmpty then "(none, define your own)"
  else joined ", " category.defaultOperations

def generationStarted (project : String) (category : Category) : String :=
  "🚀 Starting MCP Server Generation\n\n" ++
  "**Project Name:** " ++ project ++ "\n" ++
  "**Server Type:** " ++ category.name ++ "\n" ++
  "**Description:** " ++ category.description ++ "\n\n" ++
  "✅ Generation process initiated!\n\n" ++
  "**Next Steps:**\n" ++
  "1. Use 'ask_generation_questions' to get the questions for this server type\n" ++
  "2. Answer them and call 'generate_mcp_server' with your requirements\n" ++
  "3. Use 'save_generated_mcp' to write package.json, src/index.ts, README.md and the rest to disk\n\n" ++
  "Ready to proceed with the questions for your " ++ category.name ++ "?"

/-- Each text with its number, counted from one. -/
def numbered (texts : List String) : List (Nat × String) :=
  (List.range texts.length).map (· + 1) |>.zip texts

def questions (category : Category) : String :=
  "📋 Configuration Questions for " ++ category.name ++ "\n\n" ++
  "Please answer the following questions to customize your MCP server:\n\n" ++
  joined "\n\n" ((numbered category.questions).map fun (i, question) =>
    "**" ++ Text.numeral i ++ ".** " ++ question) ++ "\n\n" ++
  "**Additional Information:**\n" ++
  "- Default tools for this type: " ++ defaultTools category ++ "\n" ++
  "- You can replace the defaults by passing `tools` in the requirements\n" ++
  "- Extra npm packages go in `dependencies` and are added unpinned\n\n" ++
  "Please provide your answers, and I'll generate your custom MCP server!"

def features (synthesis : Synthesis) : List String := [
  synthesis.category.description,
  Text.numeral synthesis.operations.length ++ " custom tools",
  "Proper error handling and validation",
  "TypeScript implementation with full typing",
  "Ready for Claude Desktop integration"]

def generated (project : String) (synthesis : Synthesis) : String :=
  "🎉 MCP Server Generated Successfully!\n\n" ++
  "**Project:** " ++ project ++ "\n" ++
  "**Type:** " ++ synthesis.category.key ++ "\n" ++
  "**Tools:** " ++
    (if synthesis.operations.isEmpty then "(none)" else joined ", " synthesis.operations) ++
    "\n\n" ++
  "**Generated Files:**\n" ++
  "- 📄 package.json (Node.js project configuration)\n" ++
  "- 🔧 src/index.ts (Main server implementation)\n" ++
  "- 📚 README.md (Documentation and setup instructions)\n" ++
  "- ⚙️ tsconfig.json (TypeScript configuration)\n" ++
  "- 🔒 .gitignore (Git ignore rules)\n\n" ++
  "**Features Included:**\n" ++
  joined "\n" ((features synthesis).map ("✅ " ++ ·)) ++ "\n\n" ++
  "**Next Steps:**\n" ++
  "1. Use 'save_generated_mcp' to save files to your desired location\n" ++
  "2. Run 'npm install' to install dependencies\n" ++
  "3. Run 'npm run build' to compile TypeScript\n" ++
  "4. Run 'npm start' to start your MCP server\n" ++
  "5. Add it to your Claude Desktop configuration\n\n" ++
  "Your MCP server is ready to use! 🚀"

def template (category : Category) : String :=
  "**" ++ category.key ++ "** - " ++ category.name ++ "\n   " ++ category.description ++
    "\n   Default tools: " ++ defaultTools category

def templates : String :=
  "📦 Available MCP Server Templates\n\n" ++
  joined "\n\n" (Category.all.map template) ++ "\n\n" ++
  "**Usage:**\n" ++
  "1. Choose a template type that matches your needs\n" ++
  "2. Use 'start_mcp_generation' with your chosen type\n" ++
  "3. Answer the configuration questions\n" ++
  "4. Get your complete, ready-to-use MCP server!\n\n" ++
  "Each template includes proper error handling and documentation."

def savedFile (root file : Path) : String := "- ✅ " ++ ((file.relativeTo? root).getD file).text

/-- The program that a client starts, once the project is built. -/
def entryPoint (root : Path) : Path := (root.join ⟨"build"⟩).join ⟨"index.js"⟩

def saved (project : String) (written : SavedProject) : String :=
  "💾 MCP Server Saved Successfully!\n\n" ++
  "**Location:** " ++ written.root.text ++ "\n\n" ++
  "**Files Created:**\n" ++
  joined "\n" (written.files.map (savedFile written.root)) ++ "\n\n" ++
  "**Setup Instructions:**\n" ++
  "```bash\n" ++
  "cd " ++ written.root.text ++ "\n" ++
  "npm install\n" ++
  "npm run build\n" ++
  "npm start\n" ++
  "```\n\n" ++
  "**Add to Claude Desktop:**\n" ++
  "Add this to your Claude Desktop MCP configuration:\n" ++
  "```json\n" ++
  (Readme.clientEntry project (entryPoint written.root).text).pretty ++ "\n" ++
  "```\n\n" ++
  "Your MCP server is ready to use! 🎉"

end ServerForge.Messages
