import ServerForge.Failure
import ServerForge.Files.Access
import ServerForge.Json.Record
import ServerForge.Toml.Document

/-! The settings of the generator, read from a TOML document. -/
namespace ServerForge

structure Config where
  generatorName : String
  serverVersion : String
  sdkPackage : String
  sdkVersion : String
  nodeTypesVersion : String
  typescriptVersion : String
  deriving DecidableEq

namespace Config

def default : Config where
  generatorName := "Meta-MCP Generator"
  serverVersion := "1.0.0"
  sdkPackage := "@modelcontextprotocol/sdk"
  sdkVersion := "^0.4.0"
  nodeTypesVersion := "^20.0.0"
  typescriptVersion := "^5.0.0"

/-- The settings by their names. -/
def setters : List (String × (String → Config → Config)) := [
  ("generator_name", fun generatorName c => { c with generatorName }),
  ("server_version", fun serverVersion c => { c with serverVersion }),
  ("sdk_package", fun sdkPackage c => { c with sdkPackage }),
  ("sdk_version", fun sdkVersion c => { c with sdkVersion }),
  ("node_types_version", fun nodeTypesVersion c => { c with nodeTypesVersion }),
  ("typescript_version", fun typescriptVersion c => { c with typescriptVersion })]

/-- Every setting may be left out, and then keeps its default. -/
def record : Json.Record Config where
  name := "GeneratorConfig"
  start := default
  fields := setters.map fun (name, set) => .of name [] .optional .text set

def toJson (c : Config) : Json := .obj [
  ("generator_name", .str c.generatorName),
  ("server_version", .str c.serverVersion),
  ("sdk_package", .str c.sdkPackage),
  ("sdk_version", .str c.sdkVersion),
  ("node_types_version", .str c.nodeTypesVersion),
  ("typescript_version", .str c.typescriptVersion)]

/-- The settings that may not be blank, in the order in which they are checked. -/
def essentials (c : Config) : List (String × String) := [
  ("generator_name", c.generatorName),
  ("server_version", c.serverVersion),
  ("sdk_package", c.sdkPackage),
  ("sdk_version", c.sdkVersion)]

def validate (c : Config) : Except Failure Config :=
  match c.essentials.find? fun (_, value) => Text.isBlank value with
  | some (field, _) => throw (.config (field ++ " must not be empty"))
  | none => return c

/-- Changes the settings that a table gives; each of them has to be a text. -/
def ofTable (table : Toml.Table) (c : Config) : Option Config :=
  setters.foldlM (fun c (name, set) =>
    match table.items.lookup name with
    | none => some c
    | some (.value (.text value)) => some (set value c)
    | some _ => none) c

def ofToml (text : String) : Except Failure Config :=
  match (Toml.parse text).bind (ofTable · default) with
  | none => throw .toml
  | some c => c.validate

/-- The settings of a file, or the defaults if there is none. -/
def load [Monad m] [Files.Access m] : Option Path → m (Except Failure Config)
  | none => return .ok default
  | some path => do
    match ← Files.read path with
    | .error fault =>
      return .error (.config ("cannot read " ++ path.text ++ ": " ++ fault.message))
    | .ok text => return ofToml text

end Config

end ServerForge
