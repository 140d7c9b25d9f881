import ServerForge.Requirements
import ServerForge.Tool.Catalog

/-! A call of a tool with its arguments. -/
namespace ServerForge.Tool

inductive Call where
  | start (project category : String)
  | ask (category : String)
  | generate (project category : String) (requirements : Requirements)
  | list
  | save (project output : String)

structure StartArguments where
  project : String
  category : String

structure AskArguments where
  category : String

structure GenerateArguments where
  project : String
  category : String
  requirements : Requirements

structure SaveArguments where
  project : String
  output : String

def startRecord : Json.Record StartArguments where
  name := "StartArgs"
  start := ⟨"", ""⟩
  fields := [
    .of "projectName" [] .required .text fun project a => { a with project },
    .of "serverType" [] .required .text fun category a => { a with category }]

def askRecord : Json.Record AskArguments where
  name := "QuestionArgs"
  start := ⟨""⟩
  fields := [.of "serverType" [] .required .text fun category a => { a with category }]

def generateRecord : Json.Record GenerateArguments where
  name := "GenerateArgs"
  start := ⟨"", "", .empty⟩
  fields := [
    .of "projectName" [] .required .text fun project a => { a with project },
    .of "serverType" [] .required .text fun category a => { a with category },
    .of "requirements" [] .optional Requirements.record.codec
      fun requirements a => { a with requirements }]

def saveRecord : Json.Record SaveArguments where
  name := "SaveArgs"
  start := ⟨"", ""⟩
  fields := [
    .of "projectName" [] .required .text fun project a => { a with project },
    .of "outputPath" [] .required .text fun output a => { a with output }]

/-- The call that the arguments make up; listing takes none and looks at none. -/
def Call.ofJson (tool : Tool) (arguments : Json) : Except Json.Mismatch Call :=
  match tool with
  | .start => (fun a => .start a.project a.category) <$> startRecord.ofJson arguments
  | .ask => (fun a => .ask a.category) <$> askRecord.ofJson arguments
  | .generate =>
    (fun a => .generate a.project a.category a.requirements) <$> generateRecord.ofJson arguments
  | .list => return .list
  | .save => (fun a => .save a.project a.output) <$> saveRecord.ofJson arguments

end ServerForge.Tool
