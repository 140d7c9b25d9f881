import ServerForge.Failure
import ServerForge.Json.Variant

/-! The kinds of server, each with the operations it offers unless others are asked for. -/
namespace ServerForge

inductive Category where
  | basic
  | database
  | api
  | file
  | custom
  deriving DecidableEq, Repr

namespace Category

/-- Every category, in the order of listings. -/
def all : List Category := [.basic, .database, .api, .file, .custom]

def key : Category → String
  | .basic => "basic"
  | .database => "database"
  | .api => "api"
  | .file => "file"
  | .custom => "custom"

def keys : List String := all.map key

theorem mem_all (category : Category) : category ∈ all := by cases category <;> decide

theorem key_injective {a b : Category} (h : a.key = b.key) : a = b := by
  cases a <;> cases b <;> first | rfl | exact absurd h (by decide)

/-- Keys are matched exactly. -/
def ofKey (key : String) : Except Failure Category :=
  match all.find? (·.key == key) with
  | some category => return category
  | none => throw (.unknownCategory key)

@[simp] theorem ofKey_key (category : Category) : ofKey category.key = .ok category := by
  cases category <;> rfl

theorem ofKey_eq_ok_iff {key : String} {category : Category} :
    ofKey key = .ok category ↔ category.key = key := by
  constructor
  · intro h
    unfold ofKey at h
    split at h
    · rename_i found
      cases h
      simpa using List.find?_some found
    · cases h
  · rintro rfl
    exact ofKey_key category

/-- Any other key is refused by name. -/
theorem ofKey_eq_error_iff {key : String} {failure : Failure} :
    ofKey key = .error failure ↔ key ∉ keys ∧ failure = .unknownCategory key := by
  unfold ofKey keys
  split
  · rename_i category found
    have known : category.key = key := by simpa using List.find?_some found
    simp only [List.mem_map, not_exists, not_and]
    constructor
    · intro h
      cases h
    · intro h
      exact absurd known (h.1 category (mem_all category))
  · rename_i missing
    rw [List.find?_eq_none] at missing
    simp only [beq_iff_eq] at missing
    simp only [List.mem_map, not_exists, not_and]
    constructor
    · intro h
      cases h
      exact ⟨missing, rfl⟩
    · rintro ⟨_, rfl⟩
      rfl

def name : Category → String
  | .basic => "Basic MCP Server"
  | .database => "Database MCP Server"
  | .api => "API Integration MCP Server"
  | .file => "File Operations MCP Server"
  | .custom => "Custom MCP Server"

def description : Category → String
  | .basic => "Simple MCP server with basic tools"
  | .database => "MCP server for database operations"
  | .api => "MCP server for external API integration"
  | .file => "MCP server for file system operations"
  | .custom => "Fully customized MCP server"

def defaultOperations : Category → List String
  | .basic => ["ping", "echo"]
  | .database => ["query", "insert", "update", "delete", "schema"]
  | .api => ["get", "post", "put", "delete", "auth"]
  | .file => ["read", "write", "list", "delete", "move"]
  | .custom => []

def toJson (category : Category) : Json := .str category.key

/-- The category written in a JSON text. -/
def parse (text : String) : Except Json.Fault Category :=
  Json.readWhole (Json.readVariant (all.map fun category => (category.key, category))) text.toList

end Category

end ServerForge
