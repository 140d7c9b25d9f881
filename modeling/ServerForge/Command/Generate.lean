import ServerForge.Category.Questions
import ServerForge.Command.Arguments
import ServerForge.Command.Console
import ServerForge.Messages

/-! Generating a project without a client: from the options alone, or by asking for what the
project needs. -/
namespace ServerForge.Command

/-- The questions of a category, numbered. -/
def questionText (category : Category) : String :=
  category.name ++ " (" ++ category.key ++ ")\n\n" ++
    String.join ((Messages.numbered category.questions).map fun (i, question) =>
      "  " ++ Text.numeral i ++ ". " ++ question ++ "\n") ++ "\n"

namespace Generate

def nonEmpty (texts : List String) : Option (List String) :=
  if texts.isEmpty then none else some texts

/-- The requirements that the options make up. -/
def ofOptions (options : GenerateOptions) : Requirements where
  purpose := options.purpose
  operations := nonEmpty options.tools
  config := none
  dependencies := nonEmpty options.dependencies

/-- The texts offered for the three answers: purpose, tools and dependencies. -/
structure Answers where
  purpose : String
  tools : String
  dependencies : String

def offered (options : GenerateOptions) (category : Category) : Answers where
  purpose := options.purpose.getD ""
  tools := ", ".intercalate
    (if options.tools.isEmpty then category.defaultOperations else options.tools)
  dependencies := ", ".intercalate options.dependencies

/-- The requirements that three answers make up. -/
def ofAnswers (answers : Answers) : Requirements where
  purpose := if Text.isBlank answers.purpose then none else some (Text.trim answers.purpose)
  operations := nonEmpty (Text.splitList answers.tools)
  config := none
  dependencies := nonEmpty (Text.splitList answers.dependencies)

/-- The failure of a question that nobody can be asked. -/
def noTerminal (what : String) : Report :=
  ⟨"Failed to read " ++ what, ["IO error: not a terminal", "not a terminal"]⟩

def askAll [Monad m] [Console m] (options : GenerateOptions) (category : Category) :
    m (Except Report Requirements) := do
  say (questionText category)
  say "Enter server details (press Enter to keep default):\n\n"
  let offer := offered options category
  match ← ask "Purpose" offer.purpose with
  | none => return .error (noTerminal "purpose")
  | some purpose =>
    match ← ask "Tools (comma-separated)" offer.tools with
    | none => return .error (noTerminal "tools")
    | some tools =>
      match ← ask "Extra npm dependencies (comma-separated)" offer.dependencies with
      | none => return .error (noTerminal "dependencies")
      | some dependencies => return .ok (ofAnswers ⟨purpose, tools, dependencies⟩)

def requirements [Monad m] [Console m] (options : GenerateOptions) (category : Category) :
    m (Except Report Requirements) :=
  if options.interactive then askAll options category else return .ok (ofOptions options)

/-- What would be written, and the source in full. -/
def preview (options : GenerateOptions) (synthesis : Synthesis) : String :=
  "→ Would generate " ++ options.project ++ " (" ++ Text.numeral synthesis.operations.length ++
    " tools) in " ++ (options.output.join ⟨options.project⟩).text ++ "\n" ++
  String.join (synthesis.bundle.artifacts.map fun (path, text) =>
    "  " ++ path.text ++ " (" ++ Text.numeral text.utf8ByteSize ++ " bytes)\n") ++
  String.ofList (List.replicate 40 '─') ++ "\n" ++
  synthesis.bundle.serverSource ++ "\n"

/-- What was written, and how to go on. -/
def summary (options : GenerateOptions) (synthesis : Synthesis) (written : SavedProject) :
    String :=
  "✓ Generated " ++ options.project ++ " with " ++ Text.numeral synthesis.operations.length ++
    " tools:\n" ++
  String.join (written.files.map fun path => "  " ++ path.text ++ "\n") ++
  "\nNext steps:\n  cd " ++ written.root.text ++ "\n  npm install\n  npm run build\n  node " ++
  (Messages.entryPoint written.root).text ++ "\n"

def run [Monad m] [Files.Access m] [Console m] (config : Config) (options : GenerateOptions) :
    m (Except Report Unit) := do
  match Category.ofKey options.category with
  | .error failure => return .error (.ofFailure failure)
  | .ok category =>
    match ← requirements options category with
    | .error report => return .error report
    | .ok requirements =>
      match Synthesis.run config options.project category.key requirements with
      | .error failure => return .error (.ofFailure failure)
      | .ok synthesis =>
        if options.dryRun then
          say (preview options synthesis)
          return .ok ()
        else
          match ← Save.run synthesis.bundle options.output options.project with
          | .error failure => return .error (.ofFailure failure)
          | .ok written =>
            say (summary options synthesis written)
            return .ok ()

end Generate

end ServerForge.Command
