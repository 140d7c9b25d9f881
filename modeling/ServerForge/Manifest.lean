import ServerForge.Config
import ServerForge.Requirements

/-! The package manifest of a generated server, and the two files that never change. -/
namespace ServerForge.Manifest

/-- The version of a dependency that was asked for by name only. -/
def unpinned : String := "latest"

/-- Gives a package its version: in its old place, or at the end if it is new. -/
def demand (package version : String) : List (String × String) → List (String × String)
  | [] => [(package, version)]
  | (name, old) :: rest =>
    if name = package then (name, version) :: rest
    else (name, old) :: demand package version rest

/-- The SDK first, then every dependency that was asked for, unpinned. -/
def dependencies (requirements : Requirements) (config : Config) : List (String × String) :=
  requirements.dependencyList.foldl (fun packages package => demand package unpinned packages)
    [(config.sdkPackage, config.sdkVersion)]

def versions (packages : List (String × String)) : Json :=
  .obj (packages.map fun (package, version) => (package, .str version))

def toJson (project : String) (requirements : Requirements) (config : Config) : Json := .obj [
  ("name", .str project),
  ("version", .str config.serverVersion),
  ("description", .str ("Generated MCP server: " ++ project)),
  ("main", .str "build/index.js"),
  ("type", .str "module"),
  ("scripts", versions [
    ("build", "tsc"), ("start", "node build/index.js"), ("dev", "tsc --watch")]),
  ("dependencies", versions (dependencies requirements config)),
  ("devDependencies", versions [
    ("@types/node", config.nodeTypesVersion), ("typescript", config.typescriptVersion)])]

def render (project : String) (requirements : Requirements) (config : Config) : String :=
  (toJson project requirements config).pretty ++ "\n"

/-- Compiler settings, the same for every project. -/
def buildConfig : String :=
  Json.pretty (.obj [
    ("compilerOptions", .obj [
      ("target", .str "ES2022"),
      ("module", .str "ESNext"),
      ("moduleResolution", .str "node"),
      ("esModuleInterop", .bool true),
      ("allowSyntheticDefaultImports", .bool true),
      ("strict", .bool true),
      ("skipLibCheck", .bool true),
      ("forceConsistentCasingInFileNames", .bool true),
      ("outDir", .str "build"),
      ("rootDir", .str "src")]),
    ("include", Json.texts ["src/**/*"]),
    ("exclude", Json.texts ["node_modules", "build"])]) ++ "\n"

def ignoreRules : String :=
  "node_modules/\nbuild/\n*.log\n.env\n.DS_Store\n*.tsbuildinfo\n"

end ServerForge.Manifest
