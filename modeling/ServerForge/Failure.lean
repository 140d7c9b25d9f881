import ServerForge.Files.Fault

/-! What can go wrong, and how it is reported. -/
namespace ServerForge

inductive Failure where
  | unknownCategory (key : String)
  | projectNotFound (project : String)
  | invalidProjectName (project : String)
  | operationCollision (first second handler : String)
  | writeFailure (root : Path) (failures : List (Path × Files.Fault))
  | template (message : String)
  | config (message : String)
  | json (message : String)
  | toml
  deriving DecidableEq

def Failure.message : Failure → String
  | .unknownCategory key => "Unknown server type: " ++ key
  | .projectNotFound project => "No generated code found for project: " ++ project
  | .invalidProjectName project =>
    "Invalid project name '" ++ project ++ "': must be a single directory name"
  | .operationCollision first second handler =>
    "Operations '" ++ first ++ "' and '" ++ second ++ "' both map to handler '" ++ handler ++
      "'; rename one of them"
  | .writeFailure root failures =>
    "Failed to save files to " ++ root.text ++ ": " ++
      "; ".intercalate (failures.map fun (path, fault) => path.text ++ ": " ++ fault.message)
  | .template message => "Template error: " ++ message
  | .config message => "Configuration error: " ++ message
  | .json message => "JSON error: " ++ message
  | .toml => "TOML error"

end ServerForge
