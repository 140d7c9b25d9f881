import ServerForge.Json.Record
import ServerForge.Text.Split

/-! What a requester asks of one generated server. Everything may be left out, and nothing is
checked beyond its type. -/
namespace ServerForge

structure Requirements where
  purpose : Option String
  operations : Option (List String)
  config : Option Json.Members
  dependencies : Option (List String)

namespace Requirements

def empty : Requirements := ⟨none, none, none, none⟩

/-- The operations are written under `tools`; `operations` is read as well. -/
def record : Json.Record Requirements where
  name := "Requirements"
  start := empty
  fields := [
    .of "purpose" [] .optional (.optional .text) fun purpose r => { r with purpose },
    .of "tools" ["operations"] .optional (.optional (.list .text))
      fun operations r => { r with operations },
    .of "config" [] .optional (.optional .members) fun config r => { r with config },
    .of "dependencies" [] .optional (.optional (.list .text))
      fun dependencies r => { r with dependencies }]

def toJson (r : Requirements) : Json := .obj [
  ("purpose", (r.purpose.map .str).getD .null),
  ("tools", (r.operations.map Json.texts).getD .null),
  ("config", (r.config.map .obj).getD .null),
  ("dependencies", (r.dependencies.map Json.texts).getD .null)]

/-- The operations asked for; an empty list counts as none. -/
def operationOverride (r : Requirements) : Option (List String) :=
  r.operations.filter (!·.isEmpty)

def dependencyList (r : Requirements) : List String := r.dependencies.getD []

/-- The purpose without blanks around it; a blank one counts as none. -/
def purposeText (r : Requirements) : Option String :=
  (r.purpose.map Text.trim).filter (· != "")

end Requirements

end ServerForge
