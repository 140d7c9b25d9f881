import ServerForge.Failure
import ServerForge.Naming
import ServerForge.Json.Printer

/-! What a generated server is made of: a class with one handler method per operation. No two
operations share a handler, so the advertised operations and the dispatched ones agree. -/
namespace ServerForge

/-- An operation as a client names it, with the method that carries it out. -/
structure Operation where
  label : String
  handler : String
  deriving DecidableEq

namespace Operation

def of (label : String) : Operation := ⟨label, Naming.handlerName label⟩

/-- The form in which the generated server advertises the operation: an object with exactly
one required text, `input`. -/
def descriptor (operation : Operation) : Json := .obj [
  ("name", .str operation.label),
  ("description", .str ("Generated tool: " ++ operation.label)),
  ("inputSchema", .obj [
    ("type", .str "object"),
    ("properties", .obj [
      ("input", .obj [
        ("type", .str "string"),
        ("description", .str ("Input for " ++ operation.label ++ " operation"))])]),
    ("required", .arr [.str "input"])])]

/-- The form in which the generated server dispatches to the operation. -/
def branch (operation : Operation) : Json := .obj [
  ("label", .str operation.label),
  ("label_literal", .str (Json.quote operation.label)),
  ("handler", .str operation.handler)]

/-- The first operation whose handler an earlier one has, after that earlier one. -/
def collision? (earlier : List Operation) : List Operation → Option (Operation × Operation)
  | [] => none
  | operation :: rest =>
    match earlier.find? (·.handler == operation.handler) with
    | some first => some (first, operation)
    | none => collision? (operation :: earlier) rest

theorem nodup_of_collision?_eq_none {earlier operations : List Operation}
    (h : collision? earlier operations = none) :
    (operations.map (·.handler)).Nodup ∧
      ∀ first ∈ earlier, ∀ second ∈ operations, first.handler ≠ second.handler := by
  induction operations generalizing earlier with
  | nil => simp
  | cons operation rest ih =>
    simp only [collision?] at h
    split at h
    · simp at h
    · rename_i unused
      have apart := ih h
      rw [List.find?_eq_none] at unused
      simp only [beq_iff_eq] at unused
      refine ⟨?_, ?_⟩
      · simp only [List.map_cons, List.nodup_cons, List.mem_map, not_exists, not_and]
        exact ⟨fun second member => (apart.2 operation (by simp) second member).symm, apart.1⟩
      · intro first member second chosen
        rcases List.mem_cons.mp chosen with rfl | later
        · exact unused first member
        · exact apart.2 first (by simp [member]) second later

end Operation

/-- The modules that a generated server imports, each with the names taken from it. -/
def imports : List (String × String) := [
  ("Server", "@modelcontextprotocol/sdk/server/index.js"),
  ("StdioServerTransport", "@modelcontextprotocol/sdk/server/stdio.js"),
  ("CallToolRequestSchema, ListToolsRequestSchema", "@modelcontextprotocol/sdk/types.js")]

structure ServerModel where
  project : String
  version : String
  operations : List Operation
  distinct : (operations.map (·.handler)).Nodup

namespace ServerModel

def className (model : ServerModel) : String := Naming.className model.project

def labels (model : ServerModel) : List String := model.operations.map (·.label)

def build (project version : String) (labels : List String) : Except Failure ServerModel :=
  let operations := labels.map Operation.of
  match h : Operation.collision? [] operations with
  | some (first, second) => throw (.operationCollision first.label second.label second.handler)
  | none => return ⟨project, version, operations, (Operation.nodup_of_collision?_eq_none h).1⟩

def toJson (model : ServerModel) : Json := .obj [
  ("project_name", .str model.project),
  ("project_name_literal", .str (Json.quote model.project)),
  ("class_name", .str model.className),
  ("version", .str model.version),
  ("imports", .arr (imports.map fun (names, source) =>
    .obj [("names", .str names), ("module", .str source)])),
  ("descriptors", .arr (model.operations.map Operation.descriptor)),
  ("dispatch", .arr (model.operations.map Operation.branch))]

end ServerModel

end ServerForge
